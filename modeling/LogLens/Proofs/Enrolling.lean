/-
Module: LogLens.Proofs.Enrolling
Purpose: What a single change does to the filters in force.  Filters that are in order: never one
  more than there are places, no two with one name or one place, the masks hold their places and no
  others, and the first free place comes next.  A change leaves each filter that stays at its place,
  whatever name it goes by then, and brings no pattern that was not compiled.
Main exports: Mask.count, Pattern.Compiled, Registry.Enrolled, Registry.WellFormed.enrolled,
  Registry.change_renews, Registry.roles, Registry.enroll, Registry.roles_change
-/
import LogLens.Proofs.Closing

namespace LogLens

def Mask.count (mask : Mask) : Nat := Slot.all.countP mask.has

/-- A pattern that is what its text compiles to, with or without regard to letter case. -/
def Pattern.Compiled [PatternCompiler] (pattern : Pattern) : Prop :=
  ∃ caseSensitive, Pattern.compile pattern.source caseSensitive = .ok pattern

theorem Pattern.compiled_of_compile [PatternCompiler] {source : String} {caseSensitive : Bool}
    {pattern : Pattern} (compiles : compile source caseSensitive = .ok pattern) :
    pattern.Compiled := by
  refine ⟨caseSensitive, ?_⟩
  rw [source_of_compile compiles]
  exact compiles

def Filter.role (filter : Installed) : String × Nat := (filter.id, filter.index.val)

namespace Registry

variable {registry after : Registry} {filter : Installed} {Brought : Pattern → Prop}

/-! ### Names, places and masks -/

/-- The filters in force are in order. -/
structure Enrolled [PatternCompiler] (registry : Registry) : Prop where
  size_le : registry.size ≤ maxFilters
  names : (registry.filters.map Filter.id).Nodup
  /-- A filter goes by the text of its pattern. -/
  named : ∀ filter ∈ registry.filters, filter.id = filter.pattern.source ∧ filter.pattern.Compiled
  places : (registry.filters.map (·.index.val)).Nodup
  inRange : ∀ filter ∈ registry.filters, filter.index.val < maxFilters
  used : registry.usedMask.count = registry.size
  /-- No place is that of a filter that keeps and of one that hides. -/
  apart : registry.enabledMasks.1 &&& registry.enabledMasks.2 = 0
  keptUsed : registry.enabledMasks.1 &&& registry.usedMask = registry.enabledMasks.1
  hiddenUsed : registry.enabledMasks.2 &&& registry.usedMask = registry.enabledMasks.2
  /-- The first free place comes next. -/
  next : registry.size < maxFilters → ∃ slot, registry.nextSlot = .ok slot ∧
    (∀ filter ∈ registry.filters, filter.index ≠ slot) ∧
      ∀ other < slot, ∃ filter ∈ registry.filters, filter.index = other
  full : ¬registry.size < maxFilters → registry.nextSlot = .error .tooManyFilters

/-- Distinct places leave room for at most as many filters as a mask has bits. -/
theorem WellFormed.size_le (wellFormed : registry.WellFormed) : registry.size ≤ maxFilters := by
  have places : registry.filters.map Filter.index ⊆ Slot.all := fun slot _ => List.mem_finRange slot
  have fits := (wellFormed.places.subperm places).length_le
  rwa [List.length_map, Slot.all, List.length_finRange] at fits

/-- The mask of all filters holds one place for each of them. -/
theorem WellFormed.count_usedMask (wellFormed : registry.WellFormed) :
    registry.usedMask.count = registry.size := by
  have distinct : (Slot.all.filter registry.usedMask.has).Nodup :=
    (List.nodup_finRange maxFilters).filter _
  have same : (Slot.all.filter registry.usedMask.has).Perm (registry.filters.map Filter.index) := by
    rw [List.perm_ext_iff_of_nodup distinct wellFormed.places]
    intro slot
    rw [List.mem_filter, has_usedMask, List.mem_map]
    exact and_iff_right (List.mem_finRange slot)
  rw [Mask.count, List.countP_eq_length_filter, same.length_eq, List.length_map, size]

/-- An enabled filter is found by its place in the mask of its kind. -/
theorem exists_of_has_enabledMask {kind : FilterKind} {slot : Slot}
    (marked : (registry.enabledMask kind).has slot = true) :
    ∃ filter ∈ registry.filters, filter.index = slot ∧ filter.kind = kind := by
  rw [has_enabledMask, acting, List.any_filter, List.any_eq_true] at marked
  obtain ⟨filter, member, isActing⟩ := marked
  simp only [Bool.and_eq_true, decide_eq_true_eq, beq_iff_eq] at isActing
  exact ⟨filter, member, isActing.2, isActing.1.2⟩

/-- No filter is counted both among the keeping and among the hiding ones. -/
theorem WellFormed.enabledMasks_apart (wellFormed : registry.WellFormed) :
    registry.enabledMask .keep &&& registry.enabledMask .hide = 0 := by
  rw [Mask.eq_zero_iff]
  intro slot
  rw [Mask.has_and, Bool.and_eq_false_iff]
  by_contra both
  simp only [not_or, Bool.not_eq_false] at both
  obtain ⟨filter, member, place, keeps⟩ := exists_of_has_enabledMask both.1
  obtain ⟨other, isOther, place', hides⟩ := exists_of_has_enabledMask both.2
  have same := List.inj_on_of_nodup_map wellFormed.places member isOther (place.trans place'.symm)
  rw [same, hides] at keeps
  cases keeps

theorem enabledMask_used (registry : Registry) (kind : FilterKind) :
    registry.enabledMask kind &&& registry.usedMask = registry.enabledMask kind := by
  apply Mask.ext_has
  intro slot
  rw [Mask.has_and]
  cases marked : (registry.enabledMask kind).has slot with
  | false => rfl
  | true =>
      obtain ⟨filter, member, place, _⟩ := exists_of_has_enabledMask marked
      exact (registry.has_usedMask slot).2 ⟨filter, member, place⟩

section

variable [PatternCompiler]

/-- Filters are in order if no two have one name or one place and their patterns were compiled. -/
theorem WellFormed.enrolled (wellFormed : registry.WellFormed)
    (compiled : ∀ filter ∈ registry.filters, filter.pattern.Compiled) : registry.Enrolled where
  size_le := wellFormed.size_le
  names := wellFormed.names
  named filter member := ⟨filter.named, compiled filter member⟩
  places := by
    have places := wellFormed.places.map Fin.val_injective
    rwa [List.map_map] at places
  inRange filter _ := filter.index.isLt
  used := wellFormed.count_usedMask
  apart := wellFormed.enabledMasks_apart
  keptUsed := registry.enabledMask_used .keep
  hiddenUsed := registry.enabledMask_used .hide
  next := nextSlot_ok
  full noRoom := by
    have isFull : registry.isFull = true := by
      have fits := wellFormed.size_le
      simp only [Registry.isFull, beq_iff_eq]
      omega
    rw [nextSlot, isFull, if_pos rfl]

/-! ### Patterns -/

/-- The patterns that a change may bring. -/
def Change.Brings : Change → Pattern → Prop
  | .addPattern _ source caseSensitive, pattern => Pattern.compile source caseSensitive = .ok pattern
  | .install _ _ own _, pattern | .replacePattern _ own, pattern => own = pattern
  | .commitEdit session, pattern => session.finalPattern = .ok pattern
  | _, _ => False

/-- A change brings in no pattern other than the ones it names. -/
theorem change_renews (registry : Registry) (change : Change) :
    registry.Renews (registry.change change) change.Brings := by
  cases change with
  | addPattern kind source caseSensitive =>
      exact Renews.toOption fun _ adds => addPattern_renews adds
  | install kind index pattern enabled =>
      simp only [Registry.change]
      cases installs : registry.install ((Filter.new kind index pattern).setEnabled enabled) with
      | error e => exact registry.renews_refl
      | ok after => exact install_renews installs rfl
  | delete id => exact Renews.getD fun _ deletes => delete?_renews deletes
  | replacePattern id pattern =>
      exact Renews.toOption fun _ replaces => replacePattern_renews replaces rfl
  | setEnabled id enabled => exact (registry.setEnabled?_adjusts id enabled).renews
  | setKind id kind => exact (registry.setKind?_adjusts id kind).renews
  | beginEdit id caseSensitive =>
      rw [change_beginEdit]
      exact (registry.setEnabled?_adjusts id false).renews
  | commitEdit session => exact session.commit_renews registry fun _ final => final
  | cancelEdit session => exact (session.cancel_adjusts registry).renews

/-! ### Names and places -/

def roles (registry : Registry) : List (String × Nat) := registry.filters.map Filter.role

/-- A record in which names go on by other names, or are struck out. -/
def follow (next? : String → Option String) (ledger : List (String × Nat)) : List (String × Nat) :=
  ledger.filterMap fun entry => (next? entry.1).map fun name => (name, entry.2)

/-- The name and the place with which a change adds a filter. -/
def added? (registry : Registry) : Change → Option (String × Nat)
  | .addPattern kind source caseSensitive =>
    match registry.addPattern kind source caseSensitive with
    | .ok (slot, _) => some (source, slot.val)
    | .error _ => none
  | .install kind index pattern enabled =>
    match registry.install ((Filter.new kind index pattern).setEnabled enabled) with
    | .ok _ => some (pattern.source, index)
    | .error _ => none
  | .commitEdit session =>
    match session.finalPattern, session.target, (session.commit registry).1 with
    | .ok pattern, .new _ _, .ok slot => some (pattern.source, slot.val)
    | _, _, _ => none
  | _ => none

/-- A record of filters after a change.  Each one is recorded by the name that it goes by then and
the place that it was added with. -/
def enroll (registry : Registry) (change : Change) (ledger : List (String × Nat)) :
    List (String × Nat) :=
  follow (registry.nameAfter? · change) ledger ++ (registry.added? change).toList

end

theorem follow_some (ledger : List (String × Nat)) : follow some ledger = ledger := by
  simp [follow]

/-- Names that all stand. -/
theorem follow_stand {next? : String → Option String} {filters : List Installed}
    (stand : ∀ filter ∈ filters, next? filter.id = some filter.id) :
    follow next? (filters.map Filter.role) = filters.map Filter.role := by
  rw [follow, List.filterMap_map, ← List.filterMap_eq_map]
  apply List.filterMap_congr
  intro filter member
  simp [Filter.role, stand filter member]

/-- One name goes on by another one, or is struck out, and all others stand. -/
theorem follow_roles {next? : String → Option String} {front back : List Installed}
    (whole : registry.filters = front ++ filter :: back)
    (stand : ∀ other ∈ front ++ back, next? other.id = some other.id) :
    follow next? registry.roles = front.map Filter.role ++
      ((next? filter.id).map fun name => (name, filter.index.val)).toList ++
        back.map Filter.role := by
  have inFront := follow_stand fun other member => stand other (List.mem_append_left _ member)
  have inBack := follow_stand fun other member => stand other (List.mem_append_right _ member)
  unfold follow at inFront inBack ⊢
  rw [roles, whole, List.map_append, List.filterMap_append, inFront, List.map_cons,
    List.filterMap_cons, inBack]
  cases goesOn : next? filter.id with
  | none => simp [Filter.role, goesOn]
  | some name => simp [Filter.role, goesOn]

theorem roles_modify? (registry : Registry) (id : String) {change : Installed → Installed}
    (keeps : ∀ filter : Installed, filter.Keeps (change filter)) :
    ((registry.modify? id change).getD registry).roles = registry.roles := by
  unfold modify?
  split
  · apply map_modifyFirst
    intro filter
    rw [Filter.role, Filter.role, (keeps filter).id_eq, (keeps filter).index]
  · rfl

/-- Installing a filter writes its name and place at the end of the ledger. -/
theorem roles_install {new : Filter Nat} (installs : registry.install new = .ok after) :
    after.roles = registry.roles ++ [(new.pattern.source, new.index)] := by
  obtain ⟨slot, isPlace, filters⟩ := install_ok installs
  rw [roles, filters, List.map_append, List.map_singleton, ← isPlace, ← new.named]
  rfl

/-- The filters around another one have other names. -/
theorem WellFormed.apart (wellFormed : registry.WellFormed) {front back : List Installed}
    (whole : registry.filters = front ++ filter :: back) {other : Installed}
    (inRest : other ∈ front ++ back) : ¬filter.id = other.id :=
  (ne_of_nodup Filter.id (whole ▸ wellFormed.names) inRest).symm

/-- Deleting a filter strikes its name from the ledger and leaves the other entries. -/
theorem roles_delete? (wellFormed : registry.WellFormed) (id : String) :
    ((registry.delete? id).getD registry).roles =
      follow (fun name => if id = name then none else some name) registry.roles := by
  cases found : registry.find? id with
  | none =>
      have unnamed : ∀ filter ∈ registry.filters, ¬id = filter.id := by
        intro filter member same
        simpa [same] using List.find?_eq_none.1 found filter member
      rw [delete?, found, Option.map_none, Option.getD_none, roles, follow_stand]
      intro filter member
      exact if_neg (unnamed filter member)
  | some filter =>
      obtain ⟨front, back, whole, rfl, first⟩ := between_of_find? found
      rw [follow_roles whole, if_pos rfl, delete?_of_between whole rfl first, Option.getD_some, roles,
        filters_touch]
      · simp
      · intro other inRest
        exact if_neg (wellFormed.apart whole inRest)

/-- A filter that takes another pattern goes by its text then, and keeps its place. -/
theorem roles_replacePattern (wellFormed : registry.WellFormed) (id : String) (pattern : Pattern) :
    (((registry.replacePattern id pattern).toOption.map Prod.snd).getD registry).roles =
      follow (fun name => some (registry.renamed id pattern name)) registry.roles := by
  unfold renamed
  cases replaces : registry.replacePattern id pattern with
  | error e => exact (follow_some registry.roles).symm
  | ok answer =>
      obtain ⟨front, filter, back, whole, rfl, _, _, _, _, filters, _⟩ := replacePattern_ok replaces
      dsimp only [Except.toOption, Option.map_some, Option.getD_some]
      rw [follow_roles whole, if_pos rfl, roles, filters]
      · simp [Filter.role, Filter.replacePattern, Filter.reset]
      · intro other inRest
        rw [if_neg (wellFormed.apart whole inRest)]

theorem roles_cancel (session : EditSession) (registry : Registry) :
    (session.cancel registry).roles = registry.roles := by
  unfold EditSession.cancel
  cases session.target with
  | new kind slot => rfl
  | existing id kind slot wasEnabled =>
      exact registry.roles_modify? id fun filter => filter.keeps_setEnabled wasEnabled

section

variable [PatternCompiler] {change : Change} (stand : (registry.nameAfter? · change) = some)
include stand

theorem enroll_self (nothing : registry.added? change = none) (ledger : List (String × Nat)) :
    registry.enroll change ledger = ledger := by
  rw [enroll, stand, follow_some, nothing, Option.toList_none, List.append_nil]

theorem enroll_added {entry : String × Nat} (added : registry.added? change = some entry)
    (ledger : List (String × Nat)) : registry.enroll change ledger = ledger ++ [entry] := by
  rw [enroll, stand, follow_some, added, Option.toList_some]

end

/-- A commit renames an entry, adds one or leaves the ledger, as its outcome says. -/
theorem roles_commit [PatternCompiler] (wellFormed : registry.WellFormed) (session : EditSession) :
    (session.commit registry).2.roles = registry.enroll (.commitEdit session) registry.roles := by
  simp only [enroll, added?, nameAfter?, EditSession.renamed]
  have commits := session.commits registry
  generalize session.commit registry = result at commits
  cases commits with
  | unfinished final =>
      simp only [final, follow_some, Option.toList_none, List.append_nil]
      exact roles_cancel session registry
  | taken final target _ =>
      simp only [final, target, follow_some, Option.toList_none, List.append_nil]
  | installed final target installs =>
      simp only [final, target, follow_some, Option.toList_some]
      exact roles_install installs
  | notReplaced final target refuses =>
      simp only [final, target, ← roles_replacePattern wellFormed, refuses, Option.toList_none,
        List.append_nil]
      exact roles_cancel session registry
  | @replaced _ _ _ _ _ _ after final target replaces =>
      simp only [final, target, ← roles_replacePattern wellFormed, replaces, Option.toList_none,
        List.append_nil]
      exact after.roles_modify? _ fun filter => filter.keeps_setEnabled true

/-- A change leaves the filters as the record has them: each one that stays at its place. -/
theorem roles_change [PatternCompiler] (wellFormed : registry.WellFormed) (change : Change) :
    (registry.change change).roles = registry.enroll change registry.roles := by
  cases change with
  | addPattern kind source caseSensitive =>
      simp only [Registry.change]
      cases adds : registry.addPattern kind source caseSensitive with
      | error e => exact (enroll_self rfl (by rw [added?, adds]) _).symm
      | ok answer =>
          obtain ⟨pattern, compiles, installs⟩ := addPattern_ok adds
          rw [enroll_added rfl (by rw [added?, adds]), ← Pattern.source_of_compile compiles]
          exact roles_install installs
  | install kind index pattern enabled =>
      simp only [Registry.change]
      cases installs : registry.install ((Filter.new kind index pattern).setEnabled enabled) with
      | error e => exact (enroll_self rfl (by rw [added?, installs]) _).symm
      | ok after =>
          rw [enroll_added rfl (by rw [added?, installs])]
          exact roles_install installs
  | delete id => exact (roles_delete? wellFormed id).trans (List.append_nil _).symm
  | replacePattern id pattern =>
      exact (roles_replacePattern wellFormed id pattern).trans (List.append_nil _).symm
  | setEnabled id enabled =>
      rw [enroll_self rfl rfl]
      exact registry.roles_modify? id fun filter => filter.keeps_setEnabled enabled
  | setKind id kind =>
      rw [enroll_self rfl rfl]
      exact registry.roles_modify? id fun filter => filter.keeps_setKind kind
  | beginEdit id caseSensitive =>
      rw [enroll_self rfl rfl, change_beginEdit]
      exact registry.roles_modify? id fun filter => filter.keeps_setEnabled false
  | commitEdit session => exact roles_commit wellFormed session
  | cancelEdit session =>
      rw [enroll_self rfl rfl]
      exact roles_cancel session registry

end Registry

end LogLens
