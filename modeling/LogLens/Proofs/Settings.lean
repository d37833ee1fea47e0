/-
Module: LogLens.Proofs.Settings
Purpose: Commands and edits look at names, places and kinds of the filters, never at what these
  have read.  A change of all filters that leaves names, places and kinds may therefore be made
  before a command or after it.  Forgetting all messages is such a change, and so is turning off a
  filter that the command does not name.
Main exports: Filter.KeepsRole, Filter.Commutes, Registry.mapFilters, Registry.bare,
  Registry.apply_mapFilters, Registry.bare_eq_of_alike, EditSession.commit_bare
-/
import LogLens.Proofs.Editing
import LogLens.View.Basic

namespace LogLens

/-- A change of filters that leaves what they are known by. -/
structure Filter.KeepsRole (change : Installed → Installed) : Prop where
  kind : ∀ filter, (change filter).kind = filter.kind
  index : ∀ filter, (change filter).index = filter.index
  pattern : ∀ filter, (change filter).pattern = filter.pattern

theorem Filter.KeepsRole.id_eq {change : Installed → Installed} (keeps : KeepsRole change)
    (filter : Installed) : (change filter).id = filter.id :=
  id_eq_of_pattern (keeps.pattern filter)

/-- A change of filters that may be made before or after a filter of the given name is installed,
turned on or off, or takes another kind. -/
structure Filter.Commutes (change : Installed → Installed) (name : String) : Prop where
  keepsRole : KeepsRole change
  fresh : ∀ filter, filter.id = name → filter.Fresh → change filter = filter
  setEnabled : ∀ filter, filter.id = name → ∀ enabled,
    change (filter.setEnabled enabled) = (change filter).setEnabled enabled
  setKind : ∀ filter, filter.id = name → ∀ kind,
    change (filter.setKind kind) = (change filter).setKind kind

theorem Filter.commutes_reset (name : String) : Commutes reset name where
  keepsRole := ⟨fun _ => rfl, fun _ => rfl, fun _ => rfl⟩
  fresh filter _ fresh := by
    rw [reset, ← fresh.pending, ← fresh.last]
  setEnabled _ _ _ := rfl
  setKind _ _ _ := rfl

/-- How a filter is set: its kind, its pattern, which names it, and whether it is on. -/
def Filter.setting (filter : Installed) : FilterKind × Pattern × Bool :=
  (filter.kind, filter.pattern, filter.enabled)

namespace Registry

def mapFilters (registry : Registry) (change : Installed → Installed) : Registry :=
  { registry with filters := registry.filters.map change }

def settings (registry : Registry) : List (FilterKind × Pattern × Bool) :=
  registry.filters.map Filter.setting

/-- The filters without what they have read. -/
def bare (registry : Registry) : Registry := registry.mapFilters Filter.reset

variable {registry : Registry} {change : Installed → Installed}

@[simp] theorem filters_mapFilters (registry : Registry) (change : Installed → Installed) :
    (registry.mapFilters change).filters = registry.filters.map change := rfl

theorem ext_registry {first second : Registry} (filters : first.filters = second.filters)
    (dirty : first.dirty = second.dirty) : first = second := by
  cases first
  cases second
  simp_all

/-- Filters that are alike are the same once they have forgotten what they read. -/
theorem bare_eq_of_alike {before after : Registry}
    (alike : List.Forall₂ Filter.Alike before.filters after.filters)
    (dirty : after.dirty = before.dirty) : after.bare = before.bare := by
  have forgets : ∀ {filter other : Installed}, filter.Alike other → other.reset = filter.reset := by
    intro filter other same
    exact Filter.ext same.kind same.index same.pattern same.enabled rfl rfl
  have filters : after.bare.filters = before.bare.filters :=
    Filter.map_eq_of_alike forgets alike
  exact ext_registry filters dirty

/-! ### Finding and changing -/

/-- A change that keeps names can be made before or after a lookup. -/
theorem find?_mapFilters (keeps : Filter.KeepsRole change) (registry : Registry) (id : String) :
    (registry.mapFilters change).find? id = (registry.find? id).map change := by
  have sees : ((·.id == id) ∘ change) = (·.id == id) := by
    funext filter
    rw [Function.comp_apply, keeps.id_eq]
  rw [find?, filters_mapFilters, List.find?_map, sees]
  rfl

theorem modifyFirst_map {test : Installed → Bool} {act : Installed → Installed}
    (sees : ∀ filter, test (change filter) = test filter)
    (swap : ∀ filter, test filter = true → change (act filter) = act (change filter))
    (filters : List Installed) :
    modifyFirst test act (filters.map change) = (modifyFirst test act filters).map change := by
  induction filters with
  | nil => rfl
  | cons filter rest ih =>
      rw [List.map_cons, modifyFirst, modifyFirst, sees filter]
      by_cases found : test filter = true
      · rw [if_pos found, if_pos found, List.map_cons, swap filter found]
      · rw [if_neg found, if_neg found, List.map_cons, ih]

theorem modifyFirst_mapFilters (keeps : Filter.KeepsRole change) {id : String}
    {act : Installed → Installed}
    (swap : ∀ filter, filter.id = id → change (act filter) = act (change filter))
    (registry : Registry) :
    modifyFirst (·.id == id) act (registry.mapFilters change).filters =
      (modifyFirst (·.id == id) act registry.filters).map change := by
  apply modifyFirst_map
  · intro filter
    rw [keeps.id_eq]
  · intro filter found
    exact swap filter (eq_of_beq found)

/-- A change of every filter commutes with a change of one, where the two commute on it. -/
theorem modify?_mapFilters (keeps : Filter.KeepsRole change) {id : String}
    {act : Installed → Installed}
    (swap : ∀ filter, filter.id = id → change (act filter) = act (change filter))
    (registry : Registry) :
    (registry.mapFilters change).modify? id act =
      (registry.modify? id act).map (·.mapFilters change) := by
  rw [modify?, modify?, find?_mapFilters keeps, Option.isSome_map,
    modifyFirst_mapFilters keeps swap]
  split <;> rfl

theorem setEnabled?_mapFilters {id : String} (commutes : Filter.Commutes change id)
    (registry : Registry) (enabled : Bool) :
    (registry.mapFilters change).setEnabled? id enabled =
      (registry.setEnabled? id enabled).map (·.mapFilters change) :=
  modify?_mapFilters commutes.keepsRole
    (fun filter named => commutes.setEnabled filter named enabled) registry

theorem setKind?_mapFilters {id : String} (commutes : Filter.Commutes change id)
    (registry : Registry) (kind : FilterKind) :
    (registry.mapFilters change).setKind? id kind =
      (registry.setKind? id kind).map (·.mapFilters change) :=
  modify?_mapFilters commutes.keepsRole
    (fun filter named => commutes.setKind filter named kind) registry

theorem delete?_mapFilters (keeps : Filter.KeepsRole change) (registry : Registry) (id : String) :
    (registry.mapFilters change).delete? id =
      (registry.delete? id).map (·.mapFilters change) := by
  have sees : ((·.id == id) ∘ change) = (·.id == id) := by
    funext filter
    rw [Function.comp_apply, keeps.id_eq]
  rw [delete?, delete?, find?_mapFilters keeps, filters_mapFilters, List.eraseP_map, sees]
  cases registry.find? id with
  | none => rfl
  | some filter =>
      simp only [Option.map_some, keeps.index]
      rfl

/-! ### Installing -/

/-- The next free place depends only on the places taken. -/
theorem nextSlot_mapFilters (keeps : Filter.KeepsRole change) (registry : Registry) :
    (registry.mapFilters change).nextSlot = registry.nextSlot := by
  have free : ∀ slot, (registry.filters.map change).all (·.index != slot) =
      registry.filters.all (·.index != slot) := by
    intro slot
    rw [List.all_map]
    congr 1
    funext filter
    rw [Function.comp_apply, keeps.index]
  simp only [nextSlot, isFull, size, filters_mapFilters, List.length_map, free]
  rfl

theorem usedMask_mapFilters (keeps : Filter.KeepsRole change) (registry : Registry) :
    (registry.mapFilters change).usedMask = registry.usedMask := by
  simp only [usedMask, filters_mapFilters, List.foldl_map, keeps.index]

/-- A change of every filter commutes with an installation it does not affect. -/
theorem install_mapFilters (keeps : Filter.KeepsRole change) {filter : Filter Nat}
    (fixed : ∀ slot : Slot, change (filter.moveTo slot) = filter.moveTo slot)
    (registry : Registry) :
    (registry.mapFilters change).install filter =
      (registry.install filter).map (·.mapFilters change) := by
  have full : (registry.mapFilters change).isFull = registry.isFull := by
    simp only [isFull, size, filters_mapFilters, List.length_map]
  simp only [install, full, find?_mapFilters keeps, Option.isSome_map, usedMask_mapFilters keeps]
  split
  · rfl
  split
  · rfl
  split
  next inRange =>
    split
    · rfl
    · simp only [Except.map, touch, mapFilters, List.map_append, List.map_singleton, fixed]
  · rfl

/-- A change of every filter commutes with the addition of a pattern. -/
theorem addPattern_mapFilters [PatternCompiler] {source : String}
    (commutes : Filter.Commutes change source) (registry : Registry) (kind : FilterKind)
    (caseSensitive : Bool) :
    (registry.mapFilters change).addPattern kind source caseSensitive =
      (registry.addPattern kind source caseSensitive).map
        fun answer => (answer.1, answer.2.mapFilters change) := by
  rw [addPattern, addPattern, nextSlot_mapFilters commutes.keepsRole]
  cases registry.nextSlot with
  | error e => rfl
  | ok slot =>
      cases compiles : Pattern.compile source caseSensitive with
      | error e => rfl
      | ok pattern =>
          have fixed : ∀ place : Slot, change
              ((Filter.new kind slot.val pattern).moveTo place) =
                (Filter.new kind slot.val pattern).moveTo place := by
            intro place
            exact commutes.fresh _ (Pattern.source_of_compile compiles) ⟨rfl, rfl⟩
          simp only [bind, Except.bind, install_mapFilters commutes.keepsRole fixed]
          cases registry.install (.new kind slot.val pattern) <;> rfl

/-! ### Commands -/

theorem orUnknown_map {α β : Type} (id : String) (found : Option α) (f : α → β) :
    orUnknown id (found.map f) = (orUnknown id found).map f := by
  cases found <;> rfl

/-- A change of all filters may be made before a command or after it. -/
theorem apply_mapFilters [PatternCompiler] {command : Command}
    (commutes : Filter.Commutes change command.argument) (registry : Registry)
    (caseSensitive : Bool) :
    (registry.mapFilters change).apply caseSensitive command =
      (registry.apply caseSensitive command).map (·.mapFilters change) := by
  cases command with
  | add kind pattern =>
      have commutes : Filter.Commutes change pattern := commutes
      have again : ((registry.mapFilters change).setEnabled? pattern true).bind
          (·.setKind? pattern kind) =
            ((registry.setEnabled? pattern true).bind (·.setKind? pattern kind)).map
              (·.mapFilters change) := by
        rw [setEnabled?_mapFilters commutes]
        cases registry.setEnabled? pattern true with
        | none => rfl
        | some enabled => exact setKind?_mapFilters commutes enabled kind
      have added := addPattern_mapFilters commutes registry kind caseSensitive
      simp only [apply, again, added]
      cases (registry.setEnabled? pattern true).bind (·.setKind? pattern kind) with
      | some changed => rfl
      | none => cases registry.addPattern kind pattern caseSensitive <;> rfl
  | enable id =>
      have commutes : Filter.Commutes change id := commutes
      rw [apply, apply, setEnabled?_mapFilters commutes, orUnknown_map]
  | disable id =>
      have commutes : Filter.Commutes change id := commutes
      rw [apply, apply, setEnabled?_mapFilters commutes, orUnknown_map]
  | delete id => rw [apply, apply, delete?_mapFilters commutes.keepsRole, orUnknown_map]

/-- The filters after the kind of one of them was changed; none if there is no such filter. -/
def toggle? (registry : Registry) (id : String) : Option Registry :=
  (registry.find? id).map fun filter =>
    (registry.setKind? id filter.kind.opposite).getD registry

theorem toggle?_mapFilters {id : String} (commutes : Filter.Commutes change id)
    (registry : Registry) :
    (registry.mapFilters change).toggle? id = (registry.toggle? id).map (·.mapFilters change) := by
  rw [toggle?, toggle?, find?_mapFilters commutes.keepsRole]
  cases registry.find? id with
  | none => rfl
  | some filter =>
      simp only [Option.map_some, commutes.keepsRole.kind, setKind?_mapFilters commutes]
      cases registry.setKind? id filter.kind.opposite <;> rfl

/-- What a filter reads in a pattern that it takes later does not depend on what it read before. -/
theorem replacePattern_bare (registry : Registry) (id : String) (pattern : Pattern) :
    registry.bare.replacePattern id pattern =
      (registry.replacePattern id pattern).map fun answer => (answer.1, answer.2.bare) := by
  have keeps := (Filter.commutes_reset id).keepsRole
  have modified : modifyFirst (·.id == id) (·.replacePattern pattern) registry.bare.filters =
      (modifyFirst (·.id == id) (·.replacePattern pattern) registry.filters).map Filter.reset := by
    apply modifyFirst_mapFilters keeps
    exact fun _ _ => rfl
  rw [replacePattern, replacePattern, bare, find?_mapFilters keeps, find?_mapFilters keeps,
    Option.isSome_map]
  split
  · rfl
  · cases registry.find? id with
    | none => rfl
    | some filter =>
        simp only [bare] at modified
        simp only [Option.map_some, modified]
        rfl

end Registry

/-! ### Edits -/

namespace EditSession

open Registry

/-- Opening a session for a new filter does not look at what the filters have read. -/
theorem beginNew_bare (registry : Registry) (kind : FilterKind) (caseSensitive : Bool) :
    beginNew registry.bare kind caseSensitive = beginNew registry kind caseSensitive := by
  rw [beginNew, beginNew, bare, nextSlot_mapFilters (Filter.commutes_reset "").keepsRole]

theorem beginExisting_bare (registry : Registry) (id : String) (caseSensitive : Bool) :
    beginExisting registry.bare id caseSensitive =
      (beginExisting registry id caseSensitive).map fun answer => (answer.1, answer.2.bare) := by
  have commutes := Filter.commutes_reset id
  rw [beginExisting, beginExisting, bare, find?_mapFilters commutes.keepsRole,
    setEnabled?_mapFilters commutes]
  cases registry.find? id with
  | none => rfl
  | some filter => cases registry.setEnabled? id false <;> rfl

theorem cancel_bare (session : EditSession) (registry : Registry) :
    session.cancel registry.bare = (session.cancel registry).bare := by
  unfold cancel
  cases session.target with
  | new kind slot => rfl
  | existing id kind slot wasEnabled =>
      simp only [bare, setEnabled?_mapFilters (Filter.commutes_reset id)]
      cases registry.setEnabled? id wasEnabled <;> rfl

/-- What is installed, or why nothing is, does not depend on what the filters have read. -/
theorem commit_bare [PatternCompiler] (session : EditSession) (registry : Registry) :
    session.commit registry.bare =
      ((session.commit registry).1, (session.commit registry).2.bare) := by
  unfold commit
  cases session.finalPattern with
  | error e => simp only [cancel_bare]
  | ok pattern =>
      cases session.target with
      | new kind slot =>
          have fixed : ∀ place : Slot, Filter.reset
              ((Filter.new kind slot.val pattern).moveTo place) =
                (Filter.new kind slot.val pattern).moveTo place := fun _ => rfl
          simp only [bare, install_mapFilters (Filter.commutes_reset "").keepsRole fixed]
          cases registry.install (.new kind slot.val pattern) <;> rfl
      | existing id kind slot wasEnabled =>
          simp only [replacePattern_bare, cancel_bare]
          cases registry.replacePattern id pattern with
          | error e => rfl
          | ok answer =>
              have turnsOn := setEnabled?_mapFilters (Filter.commutes_reset pattern.source)
                answer.2 true
              simp only [Except.map, bare, turnsOn]
              cases answer.2.setEnabled? pattern.source true <;> rfl

end EditSession

end LogLens
