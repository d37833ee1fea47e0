/-
Module: LogLens.Proofs.Registration
Purpose: How the filters in force can change.  No two of them ever have one place or one name, and a
  filter that has read lines under another pattern, or none yet, is noted as one to evaluate anew.
Main exports: Registry.WellFormed, Registry.Evolves, Registry.Renews, Registry.Adjusts,
  Registry.has_usedMask, Registry.has_enabledMask, Registry.checkPlaces_ok_iff,
  Registry.nextSlot_first, Registry.nextSlot_ok, Registry.delete?_of_between,
  Registry.install_evolves, Registry.install_of_free, Registry.replacePattern_ok,
  Registry.replacePattern_evolves
-/
import Mathlib.Data.List.FinRange
import Mathlib.Data.List.Nodup
import Mathlib.Data.List.Perm.Subperm
import LogLens.Filter.Registry
import LogLens.Proofs.OwnPlace

namespace LogLens

/-- Filters that differ at most in their kind and in whether they are on. -/
structure Filter.Keeps (filter other : Installed) : Prop where
  index : other.index = filter.index
  pattern : other.pattern = filter.pattern
  pending : other.pending = filter.pending
  last : other.last = filter.last

theorem Filter.keeps_setEnabled (filter : Installed) (enabled : Bool) :
    filter.Keeps (filter.setEnabled enabled) := ⟨rfl, rfl, rfl, rfl⟩

theorem Filter.keeps_setKind (filter : Installed) (kind : FilterKind) :
    filter.Keeps (filter.setKind kind) := ⟨rfl, rfl, rfl, rfl⟩

theorem Filter.Keeps.refl (filter : Installed) : filter.Keeps filter := ⟨rfl, rfl, rfl, rfl⟩

theorem Filter.Keeps.trans {first second third : Installed} (one : first.Keeps second)
    (two : second.Keeps third) : first.Keeps third :=
  ⟨two.index.trans one.index, two.pattern.trans one.pattern, two.pending.trans one.pending,
    two.last.trans one.last⟩

theorem Filter.Keeps.id_eq {filter other : Installed} (keeps : filter.Keeps other) :
    other.id = filter.id :=
  id_eq_of_pattern keeps.pattern

namespace Registry

/-! ### Sets of places -/

/-- A mask gathered from places holds those it started with and those gathered. -/
theorem has_foldl_bit (filters : List Installed) (mask : Mask) (slot : Slot) :
    (filters.foldl (fun mask filter => mask ||| filter.index.bit) mask).has slot =
      (mask.has slot || filters.any fun filter => filter.index = slot) := by
  induction filters generalizing mask with
  | nil => simp
  | cons filter rest ih =>
      rw [List.foldl_cons, ih, Mask.has_or, Mask.has_bit, List.any_cons, Bool.or_assoc]

/-- A place is used exactly when some filter has it. -/
theorem has_usedMask (registry : Registry) (slot : Slot) :
    registry.usedMask.has slot = true ↔ ∃ filter ∈ registry.filters, filter.index = slot := by
  rw [usedMask, has_foldl_bit, Mask.has_zero, Bool.false_or]
  simp

def acting (registry : Registry) (kind : FilterKind) : List Installed :=
  registry.filters.filter fun filter => filter.enabled && filter.kind == kind

/-- A place is enabled for a kind exactly when an acting filter of that kind has it. -/
theorem has_enabledMask (registry : Registry) (kind : FilterKind) (slot : Slot) :
    (registry.enabledMask kind).has slot =
      (registry.acting kind).any fun filter => filter.index = slot := by
  rw [enabledMask, has_foldl_bit, Mask.has_zero, Bool.false_or]
  rfl

/-- Filters that differ in their messages only make up the same sets. -/
theorem enabledMask_congr {before after : Registry}
    (alike : List.Forall₂ Filter.Alike before.filters after.filters) (kind : FilterKind) :
    after.enabledMask kind = before.enabledMask kind := by
  apply Mask.ext_has
  intro slot
  rw [has_enabledMask, has_enabledMask, acting, acting]
  generalize before.filters = filters at alike
  generalize after.filters = filters' at alike
  induction alike with
  | nil => rfl
  | @cons filter filter' _ _ related _ ih =>
      rw [List.filter_cons, List.filter_cons, related.kind, related.enabled]
      split
      · rw [List.any_cons, List.any_cons, related.index, ih]
      · exact ih

/-! ### Changes -/

/-- No two filters have one place or one name. -/
structure WellFormed (registry : Registry) : Prop where
  places : (registry.filters.map Filter.index).Nodup
  names : (registry.filters.map Filter.id).Nodup

/-- The filters in force have changed.  Each one now is either fresh and noted as one to evaluate
anew, or it was there before and stands as it stood. -/
structure Evolves (before after : Registry) : Prop where
  wellFormed : after.WellFormed
  dirty : ∀ slot, before.dirty.has slot = true → after.dirty.has slot = true
  each : ∀ filter ∈ after.filters, (filter.Fresh ∧ after.dirty.has filter.index = true) ∨
    ∃ old ∈ before.filters, old.Keeps filter ∧
      after.dirty.has filter.index = before.dirty.has filter.index

theorem WellFormed.of_alike {before after : Registry} (wellFormed : before.WellFormed)
    (alike : List.Forall₂ Filter.Alike before.filters after.filters) : after.WellFormed where
  places := Filter.map_eq_of_alike Filter.Alike.index alike ▸ wellFormed.places
  names := Filter.map_eq_of_alike Filter.Alike.id_eq alike ▸ wellFormed.names

theorem wellFormed_empty : ({} : Registry).WellFormed := ⟨List.nodup_nil, List.nodup_nil⟩

variable {registry before middle after : Registry}

theorem WellFormed.evolves_refl (wellFormed : registry.WellFormed) : registry.Evolves registry where
  wellFormed := wellFormed
  dirty _ noted := noted
  each filter member := Or.inr ⟨filter, member, Filter.Keeps.refl filter, rfl⟩

theorem Evolves.trans (one : before.Evolves middle) (two : middle.Evolves after) :
    before.Evolves after where
  wellFormed := two.wellFormed
  dirty slot noted := two.dirty slot (one.dirty slot noted)
  each filter member := by
    rcases two.each filter member with fresh | ⟨old, isOld, keeps, sameNote⟩
    · exact Or.inl fresh
    · rcases one.each old isOld with ⟨fresh, noted⟩ | ⟨older, isOlder, keepsOlder, sameOlder⟩
      · refine Or.inl ⟨⟨keeps.pending.trans fresh.pending, keeps.last.trans fresh.last⟩, ?_⟩
        rw [sameNote, keeps.index, noted]
      · refine Or.inr ⟨older, isOlder, keepsOlder.trans keeps, ?_⟩
        rw [sameNote, keeps.index, sameOlder]

/-- A change that may not take place. -/
theorem Evolves.getD (wellFormed : registry.WellFormed) {change : Option Registry}
    (evolves : ∀ after, change = some after → registry.Evolves after) :
    registry.Evolves (change.getD registry) := by
  cases change with
  | none => exact wellFormed.evolves_refl
  | some after => exact evolves after rfl

/-- A change that may be refused. -/
theorem Evolves.toOption (wellFormed : registry.WellFormed) {α : Type}
    {change : Except FilterError α} {result : α → Registry}
    (evolves : ∀ answer, change = .ok answer → registry.Evolves (result answer)) :
    registry.Evolves ((change.toOption.map result).getD registry) := by
  cases change with
  | error e => exact wellFormed.evolves_refl
  | ok answer => exact evolves answer rfl

/-- Each filter now has a pattern that was there before, or one that was brought. -/
def Renews (before after : Registry) (Brought : Pattern → Prop) : Prop :=
  ∀ filter ∈ after.filters,
    (∃ old ∈ before.filters, old.pattern = filter.pattern) ∨ Brought filter.pattern

variable {Brought : Pattern → Prop}

theorem renews_refl (registry : Registry) : registry.Renews registry Brought :=
  fun filter member => Or.inl ⟨filter, member, rfl⟩

theorem Renews.trans (one : before.Renews middle Brought) (two : middle.Renews after Brought) :
    before.Renews after Brought := by
  intro filter member
  rcases two filter member with ⟨old, isOld, same⟩ | brought
  · rw [← same]
    exact one old isOld
  · exact Or.inr brought

theorem Renews.getD {change : Option Registry}
    (renews : ∀ after, change = some after → registry.Renews after Brought) :
    registry.Renews (change.getD registry) Brought := by
  cases change with
  | none => exact registry.renews_refl
  | some after => exact renews after rfl

theorem Renews.toOption {α : Type} {change : Except FilterError α} {result : α → Registry}
    (renews : ∀ answer, change = .ok answer → registry.Renews (result answer) Brought) :
    registry.Renews ((change.toOption.map result).getD registry) Brought := by
  cases change with
  | error e => exact registry.renews_refl
  | ok answer => exact renews answer rfl

/-! ### One filter among the others -/

/-- Where all names differ, a filter is found by its own. -/
theorem find?_of_nodup {α : Type} [BEq α] [LawfulBEq α] (name : Installed → α)
    {filters : List Installed} (nodup : (filters.map name).Nodup) {filter : Installed}
    (member : filter ∈ filters) :
    filters.find? (fun other => name other == name filter) = some filter := by
  induction filters with
  | nil => cases member
  | cons first rest ih =>
      rw [List.map_cons, List.nodup_cons] at nodup
      rcases List.mem_cons.1 member with rfl | inRest
      · exact List.find?_cons_of_pos (beq_self_eq_true _)
      · rw [List.find?_cons_of_neg, ih nodup.2 inRest]
        intro same
        exact nodup.1 (eq_of_beq same ▸ List.mem_map_of_mem inRest)

/-- Where all names differ, no filter around another has its name. -/
theorem ne_of_nodup {α : Type} (name : Installed → α) {front back : List Installed}
    {filter : Installed} (nodup : ((front ++ filter :: back).map name).Nodup) {other : Installed}
    (inRest : other ∈ front ++ back) : name other ≠ name filter := by
  rw [List.map_append, List.map_cons, List.nodup_middle, List.nodup_cons, ← List.map_append]
    at nodup
  intro same
  exact nodup.1 (same ▸ List.mem_map_of_mem inRest)

/-- A lookup succeeds exactly when some filter has the name. -/
theorem isSome_find?_iff {id : String} :
    (registry.find? id).isSome = true ↔ ∃ filter ∈ registry.filters, filter.id = id := by
  simp [find?]

/-- The filter of a name stands behind others that have other names. -/
theorem between_of_find? {id : String} {filter : Installed}
    (found : registry.find? id = some filter) :
    ∃ front back, registry.filters = front ++ filter :: back ∧ filter.id = id ∧
      ∀ other ∈ front, other.id ≠ id := by
  obtain ⟨named, front, back, whole, first⟩ := List.find?_eq_some_iff_append.1 found
  refine ⟨front, back, whole, eq_of_beq named, ?_⟩
  intro other inFront same
  simpa [same] using first other inFront

/-- A lookup finds the first filter of the name. -/
theorem find?_of_between {id : String} {front back : List Installed} {filter : Installed}
    (whole : registry.filters = front ++ filter :: back) (named : filter.id = id)
    (first : ∀ other ∈ front, other.id ≠ id) : registry.find? id = some filter := by
  apply List.find?_eq_some_iff_append.2
  refine ⟨beq_iff_eq.2 named, front, back, whole, ?_⟩
  intro other inFront
  simpa using first other inFront

/-- The filter that is found stands between others, and none of these has its place. -/
theorem WellFormed.between (wellFormed : registry.WellFormed) {test : Installed → Bool}
    {filter : Installed} (found : registry.filters.find? test = some filter) :
    ∃ front back, registry.filters = front ++ filter :: back ∧ test filter = true ∧
      (∀ other ∈ front, test other = false) ∧
      ∀ other ∈ front ++ back, other.index ≠ filter.index := by
  obtain ⟨passes, front, back, whole, first⟩ := List.find?_eq_some_iff_append.1 found
  have places := wellFormed.places
  rw [whole] at places
  refine ⟨front, back, whole, passes, fun other member => by simpa using first other member, ?_⟩
  intro other inRest
  exact ne_of_nodup Filter.index places inRest

theorem mem_around {front back : List Installed} (filter : Installed) {other : Installed}
    (inRest : other ∈ front ++ back) : other ∈ front ++ filter :: back :=
  ((List.sublist_cons_self filter back).append_left front).subset inRest

/-- The first filter that passes is the one that is changed. -/
theorem modifyFirst_append {test : Installed → Bool} (change : Installed → Installed)
    {front back : List Installed} {filter : Installed} (passes : test filter = true)
    (first : ∀ other ∈ front, test other = false) :
    modifyFirst test change (front ++ filter :: back) = front ++ change filter :: back := by
  induction front with
  | nil => rw [List.nil_append, modifyFirst, if_pos passes, List.nil_append]
  | cons other rest ih =>
      have fails := first other (List.mem_cons_self ..)
      rw [List.cons_append, modifyFirst, if_neg (by rw [fails]; exact Bool.false_ne_true),
        ih fun filter member => first filter (List.mem_cons_of_mem _ member), List.cons_append]

theorem eraseP_append {test : Installed → Bool} {front back : List Installed} {filter : Installed}
    (passes : test filter = true) (first : ∀ other ∈ front, test other = false) :
    (front ++ filter :: back).eraseP test = front ++ back := by
  rw [List.eraseP_append_right, List.eraseP_cons_of_pos passes]
  intro other member
  rw [first other member]
  exact Bool.false_ne_true

theorem map_modifyFirst {α : Type} {role : Installed → α} {change : Installed → Installed}
    (keeps : ∀ filter, role (change filter) = role filter) (test : Installed → Bool)
    (filters : List Installed) :
    (modifyFirst test change filters).map role = filters.map role := by
  induction filters with
  | nil => rfl
  | cons filter rest ih =>
      rw [modifyFirst]
      split
      · rw [List.map_cons, List.map_cons, keeps]
      · rw [List.map_cons, List.map_cons, ih]

@[simp] theorem filters_touch (registry : Registry) (slot : Slot) :
    (registry.touch slot).filters = registry.filters := rfl

/-- Touching a place adds it to the dirty ones. -/
@[simp] theorem has_touch (registry : Registry) (slot other : Slot) :
    (registry.touch slot).dirty.has other = (registry.dirty.has other || decide (slot = other)) := by
  rw [touch, Mask.has_or, Mask.has_bit]

/-- A change of one filter lets the filters around it stand. -/
theorem evolves_around {front back changed : List Installed} {filter : Installed}
    (whole : before.filters = front ++ filter :: back)
    (apart : ∀ other ∈ front ++ back, other.index ≠ filter.index)
    (filters : after.filters = front ++ changed ++ back) (wellFormed : after.WellFormed)
    (dirty : ∀ slot, before.dirty.has slot = true → after.dirty.has slot = true)
    (noted : ∀ slot, slot ≠ filter.index → after.dirty.has slot = before.dirty.has slot)
    (new : ∀ filter' ∈ changed, (filter'.Fresh ∧ after.dirty.has filter'.index = true) ∨
      filter.Keeps filter' ∧ after.dirty.has filter'.index = before.dirty.has filter'.index) :
    before.Evolves after where
  wellFormed := wellFormed
  dirty := dirty
  each other member := by
    have stands : other ∈ front ++ back → ∃ old ∈ before.filters, old.Keeps other ∧
        after.dirty.has other.index = before.dirty.has other.index := by
      intro inRest
      refine ⟨other, ?_, Filter.Keeps.refl other, noted other.index (apart other inRest)⟩
      rw [whole]
      exact mem_around filter inRest
    rw [filters, List.mem_append, List.mem_append] at member
    rcases member with (inFront | isNew) | inBack
    · exact Or.inr (stands (List.mem_append_left _ inFront))
    · rcases new other isNew with fresh | keeps
      · exact Or.inl fresh
      · refine Or.inr ⟨filter, ?_, keeps⟩
        rw [whole]
        exact List.mem_append_right _ (List.mem_cons_self ..)
    · exact Or.inr (stands (List.mem_append_right _ inBack))

/-- The filter of a name is changed where it stands. -/
theorem modify?_of_between {id : String} {front back : List Installed} {filter : Installed}
    (whole : registry.filters = front ++ filter :: back) (named : filter.id = id)
    (first : ∀ other ∈ front, other.id ≠ id) (change : Installed → Installed) :
    registry.modify? id change =
      some { registry with filters := front ++ change filter :: back } := by
  rw [modify?, find?_of_between whole named first, if_pos Option.isSome_some, whole,
    modifyFirst_append]
  · exact beq_iff_eq.2 named
  · intro other inFront
    simpa using first other inFront

/-- The filter of a name is taken out from where it stands, which is noted. -/
theorem delete?_of_between {id : String} {front back : List Installed} {filter : Installed}
    (whole : registry.filters = front ++ filter :: back) (named : filter.id = id)
    (first : ∀ other ∈ front, other.id ≠ id) :
    registry.delete? id =
      some ({ registry with filters := front ++ back }.touch filter.index) := by
  rw [delete?, find?_of_between whole named first, Option.map_some, whole, eraseP_append]
  · exact beq_iff_eq.2 named
  · intro other inFront
    simpa using first other inFront

/-! ### Adjusted filters -/

/-- The filters stand in their order and differ at most in their kinds and in which of them are on.  No
further place is noted. -/
structure Adjusts (before after : Registry) : Prop where
  keeps : List.Forall₂ Filter.Keeps before.filters after.filters
  dirty : after.dirty = before.dirty

theorem keeps_same (filters : List Installed) : List.Forall₂ Filter.Keeps filters filters :=
  List.forall₂_same.2 fun filter _ => Filter.Keeps.refl filter

theorem adjusts_refl (registry : Registry) : registry.Adjusts registry :=
  ⟨keeps_same registry.filters, rfl⟩

theorem Adjusts.trans (one : before.Adjusts middle) (two : middle.Adjusts after) :
    before.Adjusts after where
  keeps := forall₂_comp (fun _ _ _ one two => one.trans two) one.keeps two.keeps
  dirty := two.dirty.trans one.dirty

theorem Adjusts.wellFormed (adjusts : before.Adjusts after) (wellFormed : before.WellFormed) :
    after.WellFormed where
  places := by
    rw [Filter.map_eq_of_forall₂ Filter.index (fun _ _ => Filter.Keeps.index) adjusts.keeps]
    exact wellFormed.places
  names := by
    rw [Filter.map_eq_of_forall₂ Filter.id (fun _ _ => Filter.Keeps.id_eq) adjusts.keeps]
    exact wellFormed.names

theorem Adjusts.evolves (adjusts : before.Adjusts after) (wellFormed : before.WellFormed) :
    before.Evolves after where
  wellFormed := adjusts.wellFormed wellFormed
  dirty slot noted := by
    rw [adjusts.dirty]
    exact noted
  each filter member := by
    obtain ⟨old, isOld, keeps⟩ := exists_left_of_forall₂ adjusts.keeps member
    exact Or.inr ⟨old, isOld, keeps, by rw [adjusts.dirty]⟩

/-- Settings that are changed leave the patterns. -/
theorem Adjusts.renews (adjusts : before.Adjusts after) : before.Renews after Brought := by
  intro filter member
  obtain ⟨old, isOld, keeps⟩ := exists_left_of_forall₂ adjusts.keeps member
  exact Or.inl ⟨old, isOld, keeps.pattern.symm⟩

theorem modifyFirst_keeps {change : Installed → Installed}
    (keeps : ∀ filter : Installed, filter.Keeps (change filter)) (test : Installed → Bool)
    (filters : List Installed) :
    List.Forall₂ Filter.Keeps filters (modifyFirst test change filters) := by
  induction filters with
  | nil => exact .nil
  | cons filter rest ih =>
      rw [modifyFirst]
      split
      · exact .cons (keeps filter) (keeps_same rest)
      · exact .cons (Filter.Keeps.refl filter) ih

/-- Changing a filter's settings under its name adjusts the registry, also when the name is
unknown. -/
theorem modify?_adjusts {change : Installed → Installed}
    (keeps : ∀ filter : Installed, filter.Keeps (change filter)) (registry : Registry) (id : String) :
    registry.Adjusts ((registry.modify? id change).getD registry) := by
  unfold modify?
  split
  · exact ⟨modifyFirst_keeps keeps _ _, rfl⟩
  · exact registry.adjusts_refl

theorem setEnabled?_adjusts (registry : Registry) (id : String) (enabled : Bool) :
    registry.Adjusts ((registry.setEnabled? id enabled).getD registry) :=
  modify?_adjusts (fun filter => filter.keeps_setEnabled enabled) registry id

theorem setKind?_adjusts (registry : Registry) (id : String) (kind : FilterKind) :
    registry.Adjusts ((registry.setKind? id kind).getD registry) :=
  modify?_adjusts (fun filter => filter.keeps_setKind kind) registry id

/-! ### Free places -/

theorem isFull_of_lt (room : registry.size < maxFilters) : registry.isFull = false := by
  simp [isFull, Nat.ne_of_lt room]

/-- Places can be noted if each of them is found once, and none was noted before. -/
theorem notePlaces_ok_iff {used : Mask} {filters : List Installed} :
    (∃ noted, notePlaces used filters = .ok noted) ↔
      (filters.map Filter.index).Nodup ∧ ∀ filter ∈ filters, used.has filter.index = false := by
  induction filters generalizing used with
  | nil => simp [notePlaces]
  | cons filter rest ih =>
      rw [notePlaces, List.map_cons, List.nodup_cons, List.forall_mem_cons]
      cases again : used.has filter.index with
      | true => simp
      | false =>
          have apart : (∀ other ∈ rest, (used ||| filter.index.bit).has other.index = false) ↔
              filter.index ∉ rest.map Filter.index ∧
                ∀ other ∈ rest, used.has other.index = false := by
            simp only [Mask.has_or, Mask.has_bit, Bool.or_eq_false_iff, decide_eq_false_iff_not,
              List.mem_map, not_exists, not_and]
            grind
          rw [if_neg Bool.false_ne_true, ih, apart]
          tauto

/-- The check before a free place is looked for fails only where two filters have one place. -/
theorem checkPlaces_ok_iff : registry.checkPlaces = .ok () ↔
    registry.isFull = true ∨ (registry.filters.map Filter.index).Nodup := by
  have noted : (∃ noted, notePlaces 0 registry.filters = .ok noted) ↔
      (registry.filters.map Filter.index).Nodup :=
    notePlaces_ok_iff.trans (and_iff_left fun filter _ => Mask.has_zero filter.index)
  unfold checkPlaces
  cases registry.isFull with
  | true => simp
  | false =>
      rw [if_neg Bool.false_ne_true, ← noted]
      cases notePlaces 0 registry.filters <;> simp [Except.map]

/-- The place that comes next is the first free one. -/
theorem nextSlot_first {slot : Slot} (next : registry.nextSlot = .ok slot) :
    registry.isFull = false ∧ (∀ filter ∈ registry.filters, filter.index ≠ slot) ∧
      ∀ other < slot, ∃ filter ∈ registry.filters, filter.index = other := by
  unfold nextSlot at next
  split at next
  · cases next
  next room =>
  split at next
  next place found =>
    cases next
    obtain ⟨free, front, back, whole, taken⟩ := List.find?_eq_some_iff_append.1 found
    refine ⟨eq_false_of_ne_true room, by simpa using free, ?_⟩
    intro other before
    have ascending : (front ++ slot :: back).Pairwise (· < ·) :=
      whole ▸ List.pairwise_lt_finRange maxFilters
    have isPlace : other ∈ front ++ slot :: back := whole ▸ List.mem_finRange other
    rcases List.mem_append.1 isPlace with inFront | behind
    · simpa using taken other inFront
    · have later := (List.pairwise_append.1 ascending).2.1
      rcases List.mem_cons.1 behind with rfl | inBack
      · exact absurd before (lt_irrefl other)
      · exact absurd before (List.rel_of_pairwise_cons later inBack).asymm
  · cases next

/-- While there is room, some place is free, and the first one that is comes next. -/
theorem nextSlot_ok (room : registry.size < maxFilters) :
    ∃ slot, registry.nextSlot = .ok slot ∧ (∀ filter ∈ registry.filters, filter.index ≠ slot) ∧
      ∀ other < slot, ∃ filter ∈ registry.filters, filter.index = other := by
  cases next : registry.nextSlot with
  | ok slot => exact ⟨slot, rfl, (nextSlot_first next).2⟩
  | error e =>
      -- If all places were taken, there would be as many filters as places.
      have taken : Slot.all ⊆ registry.filters.map Filter.index := by
        rw [nextSlot, isFull_of_lt room, if_neg Bool.false_ne_true] at next
        split at next
        · cases next
        next notFound =>
          intro slot member
          simpa using List.find?_eq_none.1 notFound slot member
      have distinct : Slot.all.Nodup := List.nodup_finRange maxFilters
      have fits := (distinct.subperm taken).length_le
      rw [Slot.all, List.length_finRange, List.length_map] at fits
      exact absurd room (Nat.not_lt.2 fits)

/-! ### The operations -/

theorem modify?_evolves (wellFormed : registry.WellFormed) {id : String}
    {change : Installed → Installed} (keeps : ∀ filter : Installed, filter.Keeps (change filter))
    (changes : registry.modify? id change = some after) : registry.Evolves after := by
  have adjusts := modify?_adjusts keeps registry id
  rw [changes] at adjusts
  exact adjusts.evolves wellFormed

theorem modify?_renews {id : String} {change : Installed → Installed}
    (keeps : ∀ filter : Installed, filter.Keeps (change filter))
    (changes : registry.modify? id change = some after) : registry.Renews after Brought := by
  have adjusts := modify?_adjusts keeps registry id
  rw [changes] at adjusts
  exact adjusts.renews

theorem setEnabled?_evolves (wellFormed : registry.WellFormed) {id : String} {enabled : Bool}
    (changes : registry.setEnabled? id enabled = some after) : registry.Evolves after :=
  modify?_evolves wellFormed (fun filter => filter.keeps_setEnabled enabled) changes

theorem setKind?_evolves (wellFormed : registry.WellFormed) {id : String} {kind : FilterKind}
    (changes : registry.setKind? id kind = some after) : registry.Evolves after :=
  modify?_evolves wellFormed (fun filter => filter.keeps_setKind kind) changes

theorem setEnabled?_renews {id : String} {enabled : Bool}
    (changes : registry.setEnabled? id enabled = some after) : registry.Renews after Brought :=
  modify?_renews (fun filter => filter.keeps_setEnabled enabled) changes

theorem setKind?_renews {id : String} {kind : FilterKind}
    (changes : registry.setKind? id kind = some after) : registry.Renews after Brought :=
  modify?_renews (fun filter => filter.keeps_setKind kind) changes

/-- Deleting a filter keeps the others as they were. -/
theorem delete?_evolves (wellFormed : registry.WellFormed) {id : String}
    (deletes : registry.delete? id = some after) : registry.Evolves after := by
  obtain ⟨filter, found, rfl⟩ := Option.map_eq_some_iff.1 deletes
  obtain ⟨front, back, whole, passes, first, apart⟩ := wellFormed.between found
  have erased : registry.filters.eraseP (·.id == id) = front ++ [] ++ back := by
    rw [whole, eraseP_append passes first, List.append_nil]
  refine evolves_around whole apart erased ⟨?_, ?_⟩ ?_ ?_ fun _ none => nomatch none
  · exact wellFormed.places.sublist (List.eraseP_sublist.map _)
  · exact wellFormed.names.sublist (List.eraseP_sublist.map _)
  · intro slot noted
    rw [has_touch, noted, Bool.true_or]
  · intro slot other
    rw [has_touch, decide_eq_false (Ne.symm other), Bool.or_false]

theorem delete?_renews {id : String} (deletes : registry.delete? id = some after) :
    registry.Renews after Brought := by
  obtain ⟨_, _, rfl⟩ := Option.map_eq_some_iff.1 deletes
  exact fun filter member => Or.inl ⟨filter, List.mem_of_mem_eraseP member, rfl⟩

/-- A filter takes another pattern where it stands, and this is noted.  No other filter has the new
name. -/
theorem replacePattern_touches {id : String} {pattern : Pattern} {slot : Slot}
    (replaces : registry.replacePattern id pattern = .ok (slot, after)) :
    ∃ front filter back, registry.filters = front ++ filter :: back ∧ filter.id = id ∧
      (∀ other ∈ front, other.id ≠ id) ∧
      (pattern.source ≠ id → registry.find? pattern.source = none) ∧ slot = filter.index ∧
      after = { registry with filters := front ++ filter.replacePattern pattern :: back }.touch
        filter.index := by
  unfold replacePattern at replaces
  split at replaces
  · cases replaces
  next notTaken =>
  split at replaces
  · cases replaces
  next filter found =>
  cases replaces
  obtain ⟨front, back, whole, named, first⟩ := between_of_find? found
  refine ⟨front, filter, back, whole, named, first, ?_, rfl, ?_⟩
  · intro other
    cases taken : registry.find? pattern.source with
    | none => rfl
    | some _ => exact absurd ⟨other.symm, by rw [taken]; rfl⟩ notTaken
  · rw [whole, modifyFirst_append]
    · exact beq_iff_eq.2 named
    · intro other inFront
      simpa using first other inFront

/-- A filter takes another pattern where it stands.  No other filter has the new name. -/
theorem replacePattern_ok {id : String} {pattern : Pattern} {slot : Slot}
    (replaces : registry.replacePattern id pattern = .ok (slot, after)) :
    ∃ front filter back, registry.filters = front ++ filter :: back ∧ filter.id = id ∧
      (∀ other ∈ front, other.id ≠ id) ∧ (∀ other ∈ front, other.id ≠ pattern.source) ∧
      (pattern.source ≠ id → registry.find? pattern.source = none) ∧ slot = filter.index ∧
      after.filters = front ++ filter.replacePattern pattern :: back ∧
      ∀ other, other ≠ filter.index → after.dirty.has other = registry.dirty.has other := by
  obtain ⟨front, filter, back, whole, named, first, free, isPlace, rfl⟩ :=
    replacePattern_touches replaces
  refine ⟨front, filter, back, whole, named, first, ?_, free, isPlace, rfl, ?_⟩
  · intro other inFront same
    by_cases sameName : pattern.source = id
    · exact first other inFront (same.trans sameName)
    · have notFound := List.find?_eq_none.1 (free sameName) other
        (by rw [whole]; exact List.mem_append_left _ inFront)
      simp [same] at notFound
  · intro other apart
    rw [has_touch, decide_eq_false (Ne.symm apart), Bool.or_false]

/-- A filter that takes another pattern forgets its messages. -/
theorem replacePattern_evolves (wellFormed : registry.WellFormed) {id : String} {pattern : Pattern}
    {slot : Slot} (replaces : registry.replacePattern id pattern = .ok (slot, after)) :
    registry.Evolves after := by
  obtain ⟨front, filter, back, whole, named, _, free, _, rfl⟩ := replacePattern_touches replaces
  have changed : front ++ filter.replacePattern pattern :: back =
      front ++ [filter.replacePattern pattern] ++ back := by simp
  have places := wellFormed.places
  have names := wellFormed.names
  rw [whole] at places names
  have apart : ∀ other ∈ front ++ back, other.index ≠ filter.index :=
    fun other => ne_of_nodup Filter.index places
  refine evolves_around whole apart changed ⟨?_, ?_⟩ ?_ ?_ ?_
  · rw [filters_touch, List.map_append, List.map_cons]
    rwa [List.map_append, List.map_cons] at places
  · rw [List.map_append, List.map_cons, List.nodup_middle, List.nodup_cons,
      ← List.map_append] at names
    rw [filters_touch, List.map_append, List.map_cons, List.nodup_middle, List.nodup_cons,
      ← List.map_append]
    -- The new name is the old one of the same filter, or no filter had it.
    refine ⟨?_, names.2⟩
    intro taken
    by_cases sameName : pattern.source = id
    · exact names.1 ((named.trans sameName.symm) ▸ taken)
    · obtain ⟨other, inRest, same⟩ := List.mem_map.1 taken
      have notFound := List.find?_eq_none.1 (free sameName) other
        (by rw [whole]; exact mem_around filter inRest)
      exact notFound (beq_iff_eq.2 same)
  · intro slot noted
    rw [has_touch, noted, Bool.true_or]
  · intro slot other
    rw [has_touch, decide_eq_false (Ne.symm other), Bool.or_false]
  · intro filter' isNew
    rw [List.mem_singleton.1 isNew]
    refine Or.inl ⟨⟨rfl, rfl⟩, ?_⟩
    have noted : decide (filter.index = (filter.replacePattern pattern).index) = true :=
      decide_eq_true rfl
    rw [has_touch, noted, Bool.or_true]

/-- Replacing a pattern brings in that pattern only. -/
theorem replacePattern_renews {id : String} {pattern : Pattern} {slot : Slot}
    (replaces : registry.replacePattern id pattern = .ok (slot, after))
    (brought : Brought pattern) : registry.Renews after Brought := by
  obtain ⟨front, old, back, whole, _, _, _, _, _, filters, _⟩ := replacePattern_ok replaces
  intro filter member
  rw [filters, List.mem_append, List.mem_cons] at member
  rcases member with inFront | rfl | inBack
  · exact Or.inl ⟨filter, by simp [whole, inFront], rfl⟩
  · exact Or.inr brought
  · exact Or.inl ⟨filter, by simp [whole, inBack], rfl⟩

theorem nodup_map_concat {α : Type} (name : Installed → α) {filters : List Installed}
    {filter : Installed} (nodup : (filters.map name).Nodup)
    (new : ∀ other ∈ filters, name other ≠ name filter) :
    ((filters ++ [filter]).map name).Nodup := by
  rw [List.map_append, List.map_singleton, List.nodup_append]
  refine ⟨nodup, List.nodup_singleton _, ?_⟩
  intro taken isTaken own isOwn
  obtain ⟨other, member, rfl⟩ := List.mem_map.1 isTaken
  rw [List.mem_singleton.1 isOwn]
  exact new other member

/-- A filter that is installed stands behind the others, at the place it names, and this is noted.
Neither its name nor its place was taken. -/
theorem install_touches {filter : Filter Nat} (installs : registry.install filter = .ok after) :
    ∃ slot : Slot, slot.val = filter.index ∧ (∀ other ∈ registry.filters, other.id ≠ filter.id) ∧
      (∀ other ∈ registry.filters, other.index ≠ slot) ∧
      after = { registry with filters := registry.filters ++ [filter.moveTo slot] }.touch slot := by
  unfold install at installs
  split at installs
  · cases installs
  split at installs
  · cases installs
  next notTaken =>
  split at installs
  next inRange =>
    dsimp only at installs
    split at installs
    · cases installs
    next notUsed =>
    cases installs
    refine ⟨⟨filter.index, inRange⟩, rfl, ?_, ?_, rfl⟩
    · intro other member same
      exact notTaken (isSome_find?_iff.2 ⟨other, member, same⟩)
    · intro other member same
      exact notUsed ((registry.has_usedMask _).2 ⟨other, member, same⟩)
  · cases installs

/-- Installing a filter that has read nothing is an evolution. -/
theorem install_evolves (wellFormed : registry.WellFormed) {filter : Filter Nat}
    (pending : filter.pending = {}) (last : filter.last = none)
    (installs : registry.install filter = .ok after) : registry.Evolves after := by
  obtain ⟨slot, _, unnamed, unused, rfl⟩ := install_touches installs
  constructor
  case wellFormed =>
    exact ⟨nodup_map_concat Filter.index wellFormed.places unused,
      nodup_map_concat Filter.id wellFormed.names unnamed⟩
  case dirty =>
    intro slot noted
    rw [has_touch, noted, Bool.true_or]
  case each =>
    intro other member
    rw [filters_touch, List.mem_append, List.mem_singleton] at member
    rcases member with stands | rfl
    · refine Or.inr ⟨other, stands, Filter.Keeps.refl other, ?_⟩
      rw [has_touch, decide_eq_false (unused other stands).symm, Bool.or_false]
    · refine Or.inl ⟨⟨pending, last⟩, ?_⟩
      have noted : decide (slot = (filter.moveTo slot).index) = true := decide_eq_true rfl
      rw [has_touch, noted, Bool.or_true]

/-- A filter that is installed stands at the end of the list, in the place it asked for. -/
theorem install_ok {filter : Filter Nat} (installs : registry.install filter = .ok after) :
    ∃ slot : Slot, slot.val = filter.index ∧
      after.filters = registry.filters ++ [filter.moveTo slot] := by
  obtain ⟨slot, isPlace, _, _, rfl⟩ := install_touches installs
  exact ⟨slot, isPlace, rfl⟩

/-- A filter whose name and whose place are free is installed there, behind the others. -/
theorem install_of_free (new : Filter Nat) {slot : Slot} (place : new.index = slot.val)
    (room : registry.isFull = false) (free : ∀ filter ∈ registry.filters, filter.id ≠ new.id)
    (unused : ∀ filter ∈ registry.filters, filter.index ≠ slot) :
    registry.install new =
      .ok ({ registry with filters := registry.filters ++ [new.moveTo slot] }.touch slot) := by
  have notFound : registry.find? new.id = none := by
    apply List.find?_eq_none.2
    intro filter member
    simpa using free filter member
  have notUsed : registry.usedMask.has slot = false := by
    apply eq_false_of_ne_true
    intro used
    obtain ⟨filter, member, same⟩ := (registry.has_usedMask slot).1 used
    exact unused filter member same
  have inRange : new.index < maxFilters := place ▸ slot.isLt
  have isSlot : (⟨new.index, inRange⟩ : Slot) = slot := Fin.ext place
  simp [install, room, notFound, isSlot, notUsed, inRange]

theorem install_filters {filter : Filter Nat} (installs : registry.install filter = .ok after) :
    ∃ slot : Slot, after.filters = registry.filters ++ [filter.moveTo slot] := by
  obtain ⟨slot, _, filters⟩ := install_ok installs
  exact ⟨slot, filters⟩

/-- Installing a filter brings in its pattern only. -/
theorem install_renews {new : Filter Nat} (installs : registry.install new = .ok after)
    (brought : Brought new.pattern) : registry.Renews after Brought := by
  obtain ⟨slot, filters⟩ := install_filters installs
  intro filter member
  rw [filters, List.mem_append, List.mem_singleton] at member
  rcases member with stands | rfl
  · exact Or.inl ⟨filter, stands, rfl⟩
  · exact Or.inr brought

variable [PatternCompiler]

/-- A pattern that was added has been compiled and installed. -/
theorem addPattern_ok {kind : FilterKind} {source : String} {caseSensitive : Bool} {slot : Slot}
    (adds : registry.addPattern kind source caseSensitive = .ok (slot, after)) :
    ∃ pattern, Pattern.compile source caseSensitive = .ok pattern ∧
      registry.install (.new kind slot.val pattern) = .ok after := by
  unfold addPattern at adds
  obtain ⟨free, _, adds⟩ := ok_of_bind adds
  obtain ⟨pattern, compiles, adds⟩ := ok_of_bind adds
  obtain ⟨installed, installs, adds⟩ := ok_of_bind adds
  cases adds
  exact ⟨pattern, compiles, installs⟩

/-- Adding a pattern keeps the registry well formed and the other filters as they were. -/
theorem addPattern_evolves (wellFormed : registry.WellFormed) {kind : FilterKind} {source : String}
    {caseSensitive : Bool} {slot : Slot}
    (adds : registry.addPattern kind source caseSensitive = .ok (slot, after)) :
    registry.Evolves after := by
  obtain ⟨_, _, installs⟩ := addPattern_ok adds
  exact install_evolves wellFormed rfl rfl installs

/-- A pattern that is added was compiled from the text entered. -/
theorem addPattern_renews {kind : FilterKind} {source : String} {caseSensitive : Bool} {slot : Slot}
    (adds : registry.addPattern kind source caseSensitive = .ok (slot, after)) :
    registry.Renews after (Pattern.compile source caseSensitive = .ok ·) := by
  obtain ⟨_, compiles, installs⟩ := addPattern_ok adds
  exact install_renews installs compiles

end Registry

end LogLens
