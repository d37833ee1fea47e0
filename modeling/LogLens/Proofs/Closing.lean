/-
Module: LogLens.Proofs.Closing
Purpose: An edit knows its filter by the name that this had when the edit began.  While the edit is
  open the filter may be deleted or take another name, and another filter may take the one that
  became free.  Closing the edit touches the filter that goes by the name then, and no other.
Main exports: Registry.placeOf?, Registry.TouchesOnly, Watch, Watch.run, EditSession.commit_touches,
  Watch.run_closes, Watch.run_closes_other
-/
import LogLens.Proofs.Incremental
import LogLens.Proofs.Settings
import LogLens.Regex.Compile

namespace LogLens

namespace Registry

/-- The place of the filter of the given name; none if there is no such filter. -/
def placeOf? (registry : Registry) (name : String) : Option Slot :=
  (registry.find? name).map Filter.index

/-- At most the filter of the given name is changed.  It keeps its place in the masks and in the
order; all other filters, and what is noted of their places, stand. -/
inductive TouchesOnly (name : String) (before : Registry) : Registry → Prop where
  | nothing : TouchesOnly name before before
  | one {front back : List Installed} {filter filter' : Installed} {after : Registry}
      (whole : before.filters = front ++ filter :: back)
      (named : filter.id = name)
      (first : ∀ other ∈ front, other.id ≠ name)
      (place : filter'.index = filter.index)
      (changed : after.filters = front ++ filter' :: back)
      (noted : ∀ slot, slot ≠ filter.index → after.dirty.has slot = before.dirty.has slot) :
      TouchesOnly name before after

variable {registry after : Registry} {id name : String}

/-! ### The filter of a name -/

/-- Further filters do not hide one that is there. -/
theorem placeOf?_append {slot : Slot} (known : registry.placeOf? name = some slot)
    {added : List Installed} (filters : after.filters = registry.filters ++ added) :
    after.placeOf? name = some slot := by
  obtain ⟨filter, found, place⟩ := Option.map_eq_some_iff.1 known
  obtain ⟨front, back, whole, named, first⟩ := between_of_find? found
  have still : after.find? name = some filter := by
    apply find?_of_between _ named first
    · exact back ++ added
    · rw [filters, whole, List.append_assoc, List.cons_append]
  rw [placeOf?, still, Option.map_some, place]

/-- Filters are found alike where they have the same names and places. -/
theorem placeOf?_congr
    (roles : after.filters.map (fun filter => (filter.id, filter.index)) =
      registry.filters.map fun filter => (filter.id, filter.index)) :
    after.placeOf? name = registry.placeOf? name := by
  have byRole : ∀ other : Registry, other.placeOf? name =
      ((other.filters.map fun filter => (filter.id, filter.index)).find? (·.1 == name)).map
        Prod.snd := by
    intro other
    rw [List.find?_map, Option.map_map]
    rfl
  rw [byRole, byRole, roles]

/-- Turning a filter on or off, or changing its kind, leaves all filters at their places. -/
theorem placeOf?_modify? {change : Installed → Installed}
    (keeps : ∀ filter : Installed, filter.Keeps (change filter)) :
    ((registry.modify? id change).getD registry).placeOf? name = registry.placeOf? name := by
  unfold modify?
  split
  · apply placeOf?_congr
    apply map_modifyFirst
    intro filter
    rw [(keeps filter).id_eq, (keeps filter).index]
  · rfl

/-- Deleting one filter leaves the places of the others. -/
theorem placeOf?_delete? (other : id ≠ name) :
    ((registry.delete? id).getD registry).placeOf? name = registry.placeOf? name := by
  have apart : ∀ filters : List Installed, (filters.eraseP (·.id == id)).find? (·.id == name) =
      filters.find? (·.id == name) := by
    intro filters
    induction filters with
    | nil => rfl
    | cons filter rest ih =>
        by_cases named : filter.id = id
        · rw [List.eraseP_cons_of_pos (by simp [named]),
            List.find?_cons_of_neg (by simp [named, other])]
        · rw [List.eraseP_cons_of_neg (by simp [named]), List.find?_cons, List.find?_cons, ih]
  unfold delete?
  cases registry.find? id with
  | none => rfl
  | some filter => simp [placeOf?, find?, apart]

/-! ### Other patterns -/

/-- The name that a filter goes by after the filter named `id` was to take another pattern. -/
def renamed (registry : Registry) (id : String) (pattern : Pattern) (name : String) : String :=
  match registry.replacePattern id pattern with
  | .ok _ => if id = name then pattern.source else name
  | .error _ => name

/-- A filter that takes another pattern keeps its place, and so do all others. -/
theorem placeOf?_replacePattern {pattern : Pattern} {slot : Slot}
    (known : registry.placeOf? name = some slot) :
    (((registry.replacePattern id pattern).toOption.map Prod.snd).getD registry).placeOf?
      (registry.renamed id pattern name) = some slot := by
  unfold renamed
  cases replaces : registry.replacePattern id pattern with
  | error e => exact known
  | ok answer =>
      obtain ⟨place, after⟩ := answer
      obtain ⟨front, filter, back, whole, named, first, apart, free, _, filters, _⟩ :=
        replacePattern_ok replaces
      dsimp only [Except.toOption, Option.map_some, Option.getD_some]
      by_cases isIt : id = name
      · subst isIt
        have wasFound := find?_of_between whole named first
        have found : after.find? pattern.source = some (filter.replacePattern pattern) :=
          find?_of_between filters rfl apart
        rw [placeOf?, wasFound] at known
        rw [if_pos rfl, placeOf?, found]
        exact known
      · -- The new name is not the name in question, or else no filter could have taken it.
        have notNew : pattern.source ≠ name := by
          intro same
          have isFree := free (same ▸ Ne.symm isIt)
          rw [placeOf?, ← same, isFree] at known
          cases known
        have notOld : filter.id ≠ name := named ▸ isIt
        have notThere : (filter.replacePattern pattern).id ≠ name := notNew
        rw [if_neg isIt, ← known, placeOf?, placeOf?, find?, find?, filters, whole,
          List.find?_append, List.find?_append, List.find?_cons_of_neg (by simpa using notThere),
          List.find?_cons_of_neg (by simpa using notOld)]

/-! ### One filter touched -/

theorem modify?_touches (registry : Registry) (id : String) {change : Installed → Installed}
    (place : ∀ filter, (change filter).index = filter.index) :
    registry.TouchesOnly id ((registry.modify? id change).getD registry) := by
  cases found : registry.find? id with
  | none =>
      rw [modify?, found]
      exact .nothing
  | some filter =>
      obtain ⟨front, back, whole, named, first⟩ := between_of_find? found
      rw [modify?_of_between whole named first, Option.getD_some]
      exact .one whole named first (place filter) rfl fun _ _ => rfl

end Registry

/-! ### Closing an edit -/

namespace EditSession

open Registry

variable {session : EditSession} {id : String} {kind : FilterKind} {slot : Slot}
  {wasEnabled : Bool}

/-- Cancelling an edit touches only the filter that was being edited. -/
theorem cancel_touches (target : session.target = .existing id kind slot wasEnabled)
    (registry : Registry) : registry.TouchesOnly id (session.cancel registry) := by
  simp only [cancel, target]
  exact modify?_touches registry id fun _ => rfl

variable [PatternCompiler]

/-- What is installed takes the place of the filter that goes by the name of the edit. -/
theorem commit_touches (target : session.target = .existing id kind slot wasEnabled)
    (registry : Registry) :
    registry.TouchesOnly id (session.commit registry).2 ∧
      ∀ place, (session.commit registry).1 = .ok place → registry.placeOf? id = some place := by
  have commits := session.commits registry
  generalize session.commit registry = result at commits
  cases commits with
  | unfinished _ | notReplaced _ _ _ => exact ⟨cancel_touches target registry, nofun⟩
  | taken _ isNew _ | installed _ isNew _ => cases target.symm.trans isNew
  | @replaced pattern _ _ _ _ _ _ _ isSame replaces =>
      cases target.symm.trans isSame
      obtain ⟨front, filter, back, whole, named, first, apart, _, isPlace, filters, noted⟩ :=
        replacePattern_ok replaces
      have named' : (filter.replacePattern pattern).id = pattern.source := rfl
      constructor
      · dsimp only
        rw [setEnabled?, modify?_of_between filters named' apart, Option.getD_some]
        refine .one whole named first ?_ rfl noted
        rfl
      · intro place' same
        cases same
        rw [placeOf?, find?_of_between whole named first, Option.map_some, isPlace]

/-- Where no filter goes by the name, closing the edit does nothing, and it cannot be installed. -/
theorem closes_nothing (target : session.target = .existing id kind slot wasEnabled)
    {registry : Registry} (free : registry.find? id = none) :
    session.cancel registry = registry ∧
      ∃ e, session.commit registry = (.error e, registry) := by
  have cancels : session.cancel registry = registry := by
    simp only [cancel, target, setEnabled?, modify?, free]
    rfl
  refine ⟨cancels, ?_⟩
  have commits := session.commits registry
  generalize session.commit registry = result at commits
  cases commits with
  | @unfinished e _ | @notReplaced _ _ _ _ _ e _ _ _ => exact ⟨e, by rw [cancels]⟩
  | taken _ isNew _ | installed _ isNew _ => cases target.symm.trans isNew
  | replaced _ isSame replaces =>
      cases target.symm.trans isSame
      obtain ⟨_, filter, _, whole, named, first, _⟩ := replacePattern_ok replaces
      rw [find?_of_between whole named first] at free
      cases free

def enter (session : EditSession) (texts : List String) : EditSession :=
  texts.foldl (fun session text => (session.preview text).1) session

theorem target_enter (session : EditSession) (texts : List String) :
    (session.enter texts).target = session.target := by
  induction texts generalizing session with
  | nil => rfl
  | cons text rest ih => exact (ih (session.preview text).1).trans (session.target_preview text)

/-- The name that a filter goes by after the edit was to be installed. -/
def renamed (session : EditSession) (registry : Registry) (name : String) : String :=
  match session.finalPattern, session.target with
  | .ok pattern, .existing id _ _ _ => registry.renamed id pattern name
  | _, _ => name

omit [PatternCompiler] in
/-- Cancelling a session moves no filter to another place. -/
theorem placeOf?_cancel (session : EditSession) (registry : Registry) (name : String) :
    (session.cancel registry).placeOf? name = registry.placeOf? name := by
  unfold cancel
  cases session.target with
  | new kind slot => rfl
  | existing id kind slot wasEnabled =>
      exact placeOf?_modify? fun filter => filter.keeps_setEnabled wasEnabled

/-- Committing a session leaves each filter in its place, under the name it then has. -/
theorem placeOf?_commit (session : EditSession) {registry : Registry} {name : String} {place : Slot}
    (known : registry.placeOf? name = some place) :
    (session.commit registry).2.placeOf? (session.renamed registry name) = some place := by
  have commits := session.commits registry
  generalize session.commit registry = result at commits
  have replaced (id : String) (pattern : Pattern) :
      (((registry.replacePattern id pattern).toOption.map Prod.snd).getD registry).placeOf?
        (registry.renamed id pattern name) = some place := placeOf?_replacePattern known
  cases commits with
  | unfinished final =>
      simp only [renamed, final]
      exact (session.placeOf?_cancel registry name).trans known
  | taken final target _ =>
      simp only [renamed, final, target]
      exact known
  | installed final target installs =>
      obtain ⟨_, filters⟩ := install_filters installs
      simp only [renamed, final, target]
      exact placeOf?_append known filters
  | @notReplaced pattern id _ _ _ _ final target refuses =>
      have kept := replaced id pattern
      rw [refuses] at kept
      simp only [renamed, final, target]
      exact (session.placeOf?_cancel registry _).trans kept
  | @replaced pattern id _ _ _ _ _ final target replaces =>
      have kept := replaced id pattern
      rw [replaces] at kept
      simp only [renamed, final, target]
      exact (placeOf?_modify? fun filter => filter.keeps_setEnabled true).trans kept

end EditSession

/-! ### One filter among changes -/

/-- The name that a filter goes by after a change; none once it is deleted. -/
def Registry.nameAfter? [PatternCompiler] (registry : Registry) (name : String) :
    Change → Option String
  | .delete id => if id = name then none else some name
  | .replacePattern id pattern => some (registry.renamed id pattern name)
  | .commitEdit session => some (session.renamed registry name)
  | _ => some name

/-- Filters, and the name that one of them goes by; none once this one is deleted. -/
structure Watch where
  registry : Registry
  name? : Option String

namespace Watch

section

variable [PatternCompiler]

/-- The filters after a change, and the name that the watched one goes by then. -/
def change (watch : Watch) (change : Registry.Change) : Watch where
  registry := watch.registry.change change
  name? := watch.name?.bind fun name => watch.registry.nameAfter? name change

/-- The same after several changes. -/
def run (watch : Watch) (changes : List Registry.Change) : Watch := changes.foldl change watch

/-- As long as it is there, the watched filter has one place. -/
def StaysAt (watch : Watch) (place : Slot) : Prop :=
  ∀ name, watch.name? = some name → watch.registry.placeOf? name = some place

variable {watch : Watch} {place : Slot}

/-- No single change of the registry moves the watched filter. -/
theorem StaysAt.change (stays : watch.StaysAt place) (change : Registry.Change) :
    (watch.change change).StaysAt place := by
  intro name' isName
  obtain ⟨name, wasName, goesBy⟩ := Option.bind_eq_some_iff.1 isName
  have known := stays name wasName
  simp only [Watch.change]
  cases change with
  | addPattern kind source caseSensitive =>
      cases goesBy
      simp only [Registry.change]
      cases adds : watch.registry.addPattern kind source caseSensitive with
      | error e => exact known
      | ok answer =>
          obtain ⟨_, _, installs⟩ := Registry.addPattern_ok adds
          obtain ⟨_, filters⟩ := Registry.install_filters installs
          exact Registry.placeOf?_append known filters
  | install kind index pattern enabled =>
      cases goesBy
      simp only [Registry.change]
      cases installs : watch.registry.install ((Filter.new kind index pattern).setEnabled enabled) with
      | error e => exact known
      | ok after =>
          obtain ⟨_, filters⟩ := Registry.install_filters installs
          exact Registry.placeOf?_append known filters
  | delete id =>
      simp only [Registry.nameAfter?] at goesBy
      split at goesBy
      · cases goesBy
      next other =>
        cases goesBy
        exact (Registry.placeOf?_delete? other).trans known
  | replacePattern id pattern =>
      cases goesBy
      exact Registry.placeOf?_replacePattern known
  | setEnabled id enabled =>
      cases goesBy
      exact (Registry.placeOf?_modify? fun filter => filter.keeps_setEnabled enabled).trans known
  | setKind id kind =>
      cases goesBy
      exact (Registry.placeOf?_modify? fun filter => filter.keeps_setKind kind).trans known
  | beginEdit id caseSensitive =>
      cases goesBy
      rw [Registry.change_beginEdit]
      exact (Registry.placeOf?_modify? fun filter => filter.keeps_setEnabled false).trans known
  | commitEdit session =>
      cases goesBy
      exact session.placeOf?_commit known
  | cancelEdit session =>
      cases goesBy
      exact (session.placeOf?_cancel watch.registry _).trans known

theorem StaysAt.run (stays : watch.StaysAt place) (changes : List Registry.Change) :
    (watch.run changes).StaysAt place := by
  induction changes generalizing watch with
  | nil => exact stays
  | cons change rest ih => exact ih (stays.change change)

/-- An edit of a filter begins, and the filters change.  Whenever it is closed then, this touches
the filter that goes by the name of the edit at most; if there is none, nothing is installed and
nothing changes.  What is installed takes the place of that filter.  If it is still the filter that
the edit began with, it stands at the place of the edit. -/
theorem run_closes {registry begun : Registry} {id : String} {caseSensitive : Bool}
    {session : EditSession}
    (begins : EditSession.beginExisting registry id caseSensitive = .ok (session, begun))
    (changes : List Registry.Change) (texts : List String) :
    let watch := Watch.run ⟨begun, some id⟩ changes
    let now := watch.registry
    let closing := session.enter texts
    now.TouchesOnly id (closing.cancel now) ∧ now.TouchesOnly id (closing.commit now).2 ∧
      (now.find? id = none →
        closing.cancel now = now ∧ ∃ e, closing.commit now = (.error e, now)) ∧
      (∀ place, (closing.commit now).1 = .ok place → now.placeOf? id = some place) ∧
      (watch.name? = some id → now.placeOf? id = some closing.slot ∧
        ∀ place, (closing.commit now).1 = .ok place → place = closing.slot) := by
  intro watch now closing
  unfold EditSession.beginExisting at begins
  cases found : registry.find? id with
  | none =>
      rw [found] at begins
      cases begins
  | some filter =>
      rw [found] at begins
      cases begins
      have target : closing.target = .existing id filter.kind filter.index filter.enabled :=
        EditSession.target_enter _ texts
      obtain ⟨touches, placed⟩ := EditSession.commit_touches target now
      refine ⟨EditSession.cancel_touches target now, touches, EditSession.closes_nothing target,
        placed, ?_⟩
      intro isStill
      -- The filter had its place when the edit began and has kept it since.
      have starts : StaysAt ⟨(registry.setEnabled? id false).getD registry, some id⟩
          filter.index := by
        rintro _ ⟨⟩
        refine (Registry.placeOf?_modify? fun filter => filter.keeps_setEnabled false).trans ?_
        rw [Registry.placeOf?, found, Option.map_some]
      have stands : now.placeOf? id = some closing.slot := by
        rw [EditSession.slot, target]
        exact (starts.run changes) id isStill
      refine ⟨stands, ?_⟩
      intro place installed
      exact Option.some.inj ((placed place installed).symm.trans stands)

end

/-- While an edit is open the kind of its filter changes and another filter comes in front of it in
the masks; of two texts the last one can be installed. -/
theorem run_closes_kept :
    let start : Registry := { filters := [Filter.sample .keep 1] }
    let other := Pattern.octet "c" 99
    let changes : List Registry.Change := [.setKind "b" .hide, .install .keep 0 other true]
    ∃ session begun, EditSession.beginExisting start "b" false = .ok (session, begun) ∧
      let now := (Watch.run ⟨begun, some "b"⟩ changes).registry
      let closing := session.enter ["(", "d"]
      now.TouchesOnly "b" (closing.commit now).2 ∧
        ∃ place, (closing.commit now).1 = .ok place ∧ place = closing.slot := by
  intro start other changes
  obtain ⟨session, begun, begins⟩ : ∃ session begun,
      EditSession.beginExisting start "b" false = .ok (session, begun) := ⟨_, _, rfl⟩
  refine ⟨session, begun, begins, ?_⟩
  intro now closing
  obtain ⟨_, commits, _, _, kept⟩ := run_closes begins changes ["(", "d"]
  cases begins
  have installed : (closing.commit now).1.toOption.isSome = true := by decide +kernel
  refine ⟨commits, ?_⟩
  cases result : (closing.commit now).1 with
  | error e =>
      rw [result] at installed
      cases installed
  | ok place => exact ⟨place, rfl, (kept rfl).2 place result⟩

/-- A filter is deleted while it is edited, and another one of the same name is added and turned
off.  An edit that is given up then turns the other filter on, and one that is committed is installed
at the place of the other filter. -/
theorem run_closes_other :
    let start : Registry := { filters := [Filter.sample .keep 1] }
    let changes : List Registry.Change := [.delete "b",
      .install .hide 0 (Filter.sample .hide 0).pattern true, .setEnabled "b" false]
    ∃ session begun, EditSession.beginExisting start "b" false = .ok (session, begun) ∧
      let watch := Watch.run ⟨begun, some "b"⟩ changes
      let now := watch.registry
      watch.name? = none ∧
        now.filters = [(Filter.sample .hide 0).setEnabled false] ∧
        (session.cancel now).filters = [Filter.sample .hide 0] ∧
        (session.commit now).1 = .ok 0 ∧ session.slot = 1 :=
  ⟨_, _, rfl, rfl, rfl, rfl, rfl, rfl⟩

end Watch

end LogLens
