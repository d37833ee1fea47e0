/-
Module: LogLens.Proofs.Invalidating
Purpose: Which results are given up when the filters have changed.  A place is emptied if a filter was
  added there, deleted or given another pattern since places were emptied last, however often and for
  whichever filter; what was refused, or only adjusts a filter, empties nothing.
Main exports: FilterState.EmptyAt, Registry.Step, Registry.step, Registry.renewed, Registry.Notes,
  Registry.step_notes, Registry.foldl_notes, Engine.sync_empties_renewed
-/
import LogLens.Proofs.Closing
import LogLens.Proofs.Separation

namespace LogLens

/-! ### Places that hold nothing -/

namespace FilterState

/-- Nothing is stored at a place. -/
structure EmptyAt (slot : Slot) (state : FilterState) : Prop where
  count : state.count slot = 0
  hits : state.hits slot = 0
  marks : ∀ line, (state.mask line).has slot = false

variable {slot : Slot} {state : FilterState} {places : Mask}

theorem EmptyAt.agreesAt {other : FilterState} (empty : EmptyAt slot state)
    (empty' : EmptyAt slot other) : AgreesAt slot state other where
  count := empty.count.trans empty'.count.symm
  hits := empty.hits.trans empty'.hits.symm
  marks line := (empty.marks line).trans (empty'.marks line).symm

/-- The places that are forgotten are left empty. -/
theorem emptyAt_forget (forgotten : places.has slot = true) : EmptyAt slot (state.forget places) := by
  constructor <;> simp [forgotten]

theorem agreesAt_forget (kept : places.has slot = false) :
    AgreesAt slot (state.forget places) state := by
  constructor <;> simp [kept]

theorem AgreesAt.emptyAt {other : FilterState} (agrees : AgreesAt slot state other)
    (empty : EmptyAt slot other) : EmptyAt slot state where
  count := agrees.count.trans empty.count
  hits := agrees.hits.trans empty.hits
  marks line := (agrees.marks line).trans (empty.marks line)

end FilterState

namespace Registry

/-! ### Steps -/

/-- A change of the filters, or a filter that is brought as it stands: it may have read lines. -/
inductive Step where
  | change (change : Change)
  | add (filter : Filter Nat)

section

variable [PatternCompiler]

/-- The filters after a step.  One that is refused changes nothing. -/
def step (registry : Registry) : Step → Registry
  | .change change => registry.change change
  | .add filter => (registry.install filter).toOption.getD registry

/-- The place that a filter takes, if it is accepted. -/
def placeFor? (registry : Registry) (filter : Filter Nat) : Option Slot :=
  match registry.install filter with
  | .ok _ => (Slot.ofIndex filter.index).toOption
  | .error _ => none

/-- The place at which a step adds a filter, deletes one or gives one another pattern: the one that is
answered, or that of the filter which a deletion finds.  There is none if the step is refused or does
something else. -/
def renewed? (registry : Registry) : Step → Option Slot
  | .add filter => registry.placeFor? filter
  | .change change =>
    match change with
    | .addPattern kind source caseSensitive =>
      (registry.addPattern kind source caseSensitive).toOption.map Prod.fst
    | .install kind index pattern enabled =>
      registry.placeFor? ((Filter.new kind index pattern).setEnabled enabled)
    | .delete id => registry.placeOf? id
    | .replacePattern id pattern => (registry.replacePattern id pattern).toOption.map Prod.fst
    | .commitEdit session => (session.commit registry).1.toOption
    | .setEnabled _ _ | .setKind _ _ | .beginEdit _ _ | .cancelEdit _ => none

/-- The places at which steps in turn do so. -/
def renewed : Registry → List Step → List Slot
  | _, [] => []
  | registry, step :: rest => (registry.renewed? step).toList ++ (registry.step step).renewed rest

end

/-! ### What a step notes -/

/-- Filters were renewed at some places, which are noted.  Everywhere else there is a filter if there
was one. -/
structure Notes (places : List Slot) (before after : Registry) : Prop where
  dirty : ∀ slot, after.dirty.has slot = true ↔ before.dirty.has slot = true ∨ slot ∈ places
  used : ∀ slot, slot ∉ places →
    (slot ∈ after.filters.map Filter.index ↔ slot ∈ before.filters.map Filter.index)

variable {registry before middle after : Registry}

theorem Notes.trans {one two : List Slot} (notesOne : Notes one before middle)
    (notesTwo : Notes two middle after) : Notes (one ++ two) before after where
  dirty slot := by
    rw [notesTwo.dirty, notesOne.dirty, List.mem_append, or_assoc]
  used slot apart := by
    rw [List.mem_append, not_or] at apart
    rw [notesTwo.used slot apart.2, notesOne.used slot apart.1]

theorem Adjusts.notes (adjusts : before.Adjusts after) : Notes [] before after where
  dirty slot := by simp [adjusts.dirty]
  used slot _ := by
    rw [Filter.map_eq_of_forall₂ Filter.index (fun _ _ => Filter.Keeps.index) adjusts.keeps]

theorem notes_refl (registry : Registry) : Notes [] registry registry := registry.adjusts_refl.notes

/-- A filter is renewed at one place, and the place is noted. -/
theorem notes_touch {filters : List Installed} {slot : Slot}
    (used : ∀ other, other ≠ slot →
      (other ∈ filters.map Filter.index ↔ other ∈ registry.filters.map Filter.index)) :
    Notes [slot] registry ({ registry with filters }.touch slot) where
  dirty other := by
    rw [has_touch, Bool.or_eq_true, decide_eq_true_iff, List.mem_singleton, @eq_comm _ slot]
  used other apart := used other fun same => apart (List.mem_singleton.2 same)

/-- Installing a filter notes the place it is put in. -/
theorem install_notes {filter : Filter Nat} {slot : Slot} (place : slot.val = filter.index)
    (installs : registry.install filter = .ok after) : Notes [slot] registry after := by
  obtain ⟨own, isPlace, _, _, rfl⟩ := install_touches installs
  obtain rfl : own = slot := Fin.ext (isPlace.trans place.symm)
  apply notes_touch
  intro other apart
  simp [Filter.moveTo, apart]

/-- An attempt to add a filter notes a place only when it succeeds. -/
theorem add_notes (registry : Registry) (filter : Filter Nat) :
    Notes (registry.placeFor? filter).toList registry
      ((registry.install filter).toOption.getD registry) := by
  unfold placeFor?
  cases installs : registry.install filter with
  | error e => exact registry.notes_refl
  | ok after =>
      obtain ⟨slot, isPlace, _⟩ := install_ok installs
      have place : Slot.ofIndex filter.index = .ok slot := by
        rw [Slot.ofIndex, dif_pos (isPlace ▸ slot.isLt)]
        exact congrArg Except.ok (Fin.ext isPlace.symm)
      simp only [place]
      exact install_notes isPlace installs

/-- Deleting a filter notes the place it leaves. -/
theorem delete?_notes (registry : Registry) (id : String) :
    Notes (registry.placeOf? id).toList registry ((registry.delete? id).getD registry) := by
  cases found : registry.find? id with
  | none =>
      rw [placeOf?, delete?, found]
      exact registry.notes_refl
  | some filter =>
      obtain ⟨front, back, whole, named, first⟩ := between_of_find? found
      rw [placeOf?, found, delete?_of_between whole named first]
      apply notes_touch
      intro other apart
      rw [whole]
      simp [apart]

/-- Replacing a pattern notes the place of its filter. -/
theorem replacePattern_notes {id : String} {pattern : Pattern} {slot : Slot}
    (replaces : registry.replacePattern id pattern = .ok (slot, after)) :
    Notes [slot] registry after := by
  obtain ⟨front, filter, back, whole, _, _, _, rfl, rfl⟩ := replacePattern_touches replaces
  apply notes_touch
  intro other _
  rw [whole, List.map_append, List.map_append, List.map_cons, List.map_cons]
  rfl

variable [PatternCompiler]

/-- An edit that is installed renews the filter at one place; one that is refused renews none. -/
theorem commit_notes (session : EditSession) (registry : Registry) :
    Notes (session.commit registry).1.toOption.toList registry (session.commit registry).2 := by
  have commits := session.commits registry
  generalize session.commit registry = result at commits
  cases commits with
  | unfinished _ | notReplaced _ _ _ => exact (session.cancel_adjusts registry).notes
  | taken _ _ _ => exact registry.notes_refl
  | installed _ _ installs => exact install_notes rfl installs
  | replaced _ _ replaces =>
      exact (replacePattern_notes replaces).trans (setEnabled?_adjusts _ _ true).notes

/-- Each step notes the place at which it renews a filter, and no other. -/
theorem step_notes (registry : Registry) (step : Step) :
    Notes (registry.renewed? step).toList registry (registry.step step) := by
  cases step with
  | add filter => exact registry.add_notes filter
  | change change =>
      cases change with
      | addPattern kind source caseSensitive =>
          simp only [step, renewed?, Registry.change]
          cases adds : registry.addPattern kind source caseSensitive with
          | error e => exact registry.notes_refl
          | ok answer =>
              obtain ⟨pattern, _, installs⟩ := addPattern_ok adds
              exact install_notes rfl installs
      | install kind index pattern enabled => exact registry.add_notes _
      | delete id => exact registry.delete?_notes id
      | replacePattern id pattern =>
          simp only [step, renewed?, Registry.change]
          cases replaces : registry.replacePattern id pattern with
          | error e => exact registry.notes_refl
          | ok answer => exact replacePattern_notes replaces
      | setEnabled id enabled => exact (registry.setEnabled?_adjusts id enabled).notes
      | setKind id kind => exact (registry.setKind?_adjusts id kind).notes
      | beginEdit id caseSensitive =>
          simp only [step, change_beginEdit]
          exact (registry.setEnabled?_adjusts id false).notes
      | commitEdit session => exact commit_notes session registry
      | cancelEdit session => exact (session.cancel_adjusts registry).notes

/-- So do steps in turn. -/
theorem foldl_notes (registry : Registry) (steps : List Step) :
    Notes (registry.renewed steps) registry (steps.foldl step registry) := by
  induction steps generalizing registry with
  | nil => exact registry.notes_refl
  | cons first rest ih => exact (registry.step_notes first).trans (ih (registry.step first))

end Registry

/-! ### Emptied places -/

namespace Engine

open FilterState (EmptyAt AgreesAt)

variable {engine : Engine} {slot : Slot}

theorem mem_places (engine : Engine) (slot : Slot) :
    slot ∈ engine.places ↔ engine.registry.usedMask.has slot = true := by
  rw [places, List.mem_map, Registry.has_usedMask]

theorem state_sync (engine : Engine) : engine.sync.state =
    (engine.state.forget engine.registry.dirty).forget (~~~engine.registry.usedMask) := rfl

/-- A place is emptied if it is noted or has no filter. -/
theorem emptyAt_sync (stale : slot ∈ engine.places → engine.registry.dirty.has slot = true) :
    EmptyAt slot engine.sync.state := by
  rw [state_sync]
  by_cases used : slot ∈ engine.places
  · have kept : (~~~engine.registry.usedMask).has slot = false := by
      simp [(engine.mem_places slot).1 used]
    exact (FilterState.agreesAt_forget kept).emptyAt (FilterState.emptyAt_forget (stale used))
  · apply FilterState.emptyAt_forget
    simpa [mem_places] using used

/-- A place is kept if it has a filter and is not noted. -/
theorem agreesAt_sync (used : slot ∈ engine.places)
    (clean : engine.registry.dirty.has slot = false) :
    AgreesAt slot engine.sync.state engine.state := by
  have kept : (~~~engine.registry.usedMask).has slot = false := by
    simp [(engine.mem_places slot).1 used]
  rw [state_sync]
  exact (FilterState.agreesAt_forget kept).trans (FilterState.agreesAt_forget clean)

/-- Between two times that places are emptied, filters were added, deleted, given other patterns,
turned on and off, given other kinds and edited, and some of this was refused.  The second time those
places are emptied at which a filter was added, deleted or given another pattern, whoever has them
now, and nothing else is given up. -/
theorem sync_empties_renewed [PatternCompiler] (engine : Engine) (steps : List Registry.Step) :
    let before := engine.sync
    let changed : Engine :=
      { before with registry := steps.foldl Registry.step before.registry }
    let after := changed.sync
    let renewed := before.registry.renewed steps
    (∀ slot, changed.registry.dirty.has slot = true ↔ slot ∈ renewed) ∧
      (∀ slot ∈ renewed, EmptyAt slot after.state) ∧
      (∀ slot, slot ∉ renewed → AgreesAt slot after.state before.state) ∧
      after.state.length = before.state.length := by
  intro before changed after renewed
  have notes : Registry.Notes renewed before.registry changed.registry :=
    before.registry.foldl_notes steps
  have noted : ∀ slot, changed.registry.dirty.has slot = true ↔ slot ∈ renewed := by
    intro slot
    rw [notes.dirty, dirty_sync, Mask.has_zero]
    simp
  refine ⟨noted, ?_, ?_, changed.length_sync⟩
  · intro slot member
    exact emptyAt_sync fun _ => (noted slot).2 member
  · intro slot apart
    have clean : changed.registry.dirty.has slot = false := by
      rw [Bool.eq_false_iff, Ne, noted]
      exact apart
    by_cases used : slot ∈ changed.places
    · exact agreesAt_sync used clean
    · -- There was no filter before either, so the place was empty already.
      have unused : slot ∉ engine.places := fun there => used ((notes.used slot apart).2 there)
      exact (emptyAt_sync fun there => absurd there used).agreesAt
        (emptyAt_sync fun there => absurd there unused)

/-- A filter is deleted and another one takes its place.  It cannot be deleted twice, the other one
cannot be added twice nor give its pattern to a third, and this one only changes its kind. -/
example :
    let other : Installed := (Filter.sample .hide 1).replacePattern (.octet "a" 97)
    let new : Filter Nat := .new .hide 3 (.octet "c" 99)
    ({ filters := [Filter.sample .keep 3, other] } : Registry).renewed [.change (.delete "b"),
      .change (.delete "b"), .add new, .add new, .change (.replacePattern "a" new.pattern),
      .change (.setKind "a" .keep)] = [3, 3] := by
  decide +kernel

end Engine

end LogLens
