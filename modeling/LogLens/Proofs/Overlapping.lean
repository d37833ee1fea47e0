/-
Module: LogLens.Proofs.Overlapping
Purpose: Several edits of one filter at a time.  Each of them keeps whether the filter was on when
  it began, and brings that back when it is closed; so the one that is closed last decides, and the
  filter may stay off although it was on before the first one.
Main exports: Registry.flag?, Edits, Edits.run, Edits.run_closed, Edits.run_closed_off
-/
import Mathlib.Data.List.Induction
import LogLens.Proofs.Settings
import LogLens.Regex.Compile

namespace LogLens

/-! ### Whether a filter is on -/

namespace Registry

def flag? (registry : Registry) (id : String) : Option Bool :=
  (registry.find? id).map Filter.enabled

theorem find?_modifyFirst {test : Installed → Bool} {change : Installed → Installed}
    (keeps : ∀ filter, test filter = true → test (change filter) = true)
    (filters : List Installed) :
    (modifyFirst test change filters).find? test = (filters.find? test).map change := by
  induction filters with
  | nil => rfl
  | cons filter rest ih =>
      cases found : test filter with
      | true =>
          rw [modifyFirst, if_pos found, List.find?_cons_of_pos (keeps filter found),
            List.find?_cons_of_pos found, Option.map_some]
      | false =>
          rw [modifyFirst, found, if_neg Bool.false_ne_true,
            List.find?_cons_of_neg (by simp [found]), List.find?_cons_of_neg (by simp [found]), ih]

/-- A filter that is turned on or off is so then. -/
theorem flag?_setEnabled? (registry : Registry) (id : String) (enabled : Bool) :
    ((registry.setEnabled? id enabled).getD registry).flag? id =
      (registry.flag? id).map fun _ => enabled := by
  rw [setEnabled?, modify?]
  cases found : registry.find? id with
  | none => simp [flag?, found]
  | some filter =>
      have modified : (modifyFirst (·.id == id) (·.setEnabled enabled) registry.filters).find?
          (·.id == id) = (registry.find? id).map (·.setEnabled enabled) := by
        apply find?_modifyFirst
        exact fun _ named => named
      rw [if_pos Option.isSome_some, Option.getD_some, flag?, flag?, find?, modified, found]
      rfl

end Registry

/-! ### Edits of one filter -/

/-- Filters, and the edits of one of them in the order in which they began; none for those that are
closed. -/
structure Edits where
  registry : Registry
  sessions : List (Option EditSession) := []

namespace Edits

/-- What can be done while edits are open. -/
inductive Action where
  /-- Start one more edit of the filter. -/
  | begin (caseSensitive : Bool)
  /-- Enter a text for an open edit. -/
  | preview (number : Nat) (text : String)
  /-- Close an edit and give it up. -/
  | cancel (number : Nat)
  /-- Close an edit that cannot be installed. -/
  | commit (number : Nat)
  /-- Change other filters. -/
  | change (after : Registry)

/-- The edit that an action closes. -/
def Action.closes? : Action → Option Nat
  | cancel number | commit number => some number
  | _ => none

/-- The open edit of the given number. -/
def open? (edits : Edits) (number : Nat) : Option EditSession := edits.sessions[number]?.join

/-- Do one thing with the edits of the filter of the given name.  Edits that are closed cannot be
used again, a commit must be refused, and a change must leave the filter on or off as it is. -/
def perform [PatternCompiler] (id : String) (edits : Edits) : Action → Option Edits
  | .begin caseSensitive =>
    match EditSession.beginExisting edits.registry id caseSensitive with
    | .ok (session, registry) => some ⟨registry, edits.sessions ++ [some session]⟩
    | .error _ => some edits
  | .preview number text =>
    (edits.open? number).map fun session =>
      { edits with sessions := edits.sessions.set number (some (session.preview text).1) }
  | .cancel number =>
    (edits.open? number).map fun session =>
      ⟨session.cancel edits.registry, edits.sessions.set number none⟩
  | .commit number =>
    (edits.open? number).bind fun session =>
      match session.commit edits.registry with
      | (.error _, registry) => some ⟨registry, edits.sessions.set number none⟩
      | (.ok _, _) => none
  | .change after =>
    if after.flag? id = edits.registry.flag? id then some { edits with registry := after } else none

def run [PatternCompiler] (id : String) (edits : Edits) (actions : List Action) : Option Edits :=
  actions.foldlM (perform id) edits

/-- A run behind which one more action is performed ends as that action says. -/
theorem run_concat [PatternCompiler] (id : String) (edits : Edits) (actions : List Action)
    (action : Action) :
    run id edits (actions ++ [action]) = (run id edits actions).bind (perform id · action) := by
  simp only [run, List.foldlM_append, List.foldlM_cons, List.foldlM_nil, bind_pure]
  rfl

/-- The edit of the given number began among the actions.  Just before, the filter was on or off as
given. -/
def Began [PatternCompiler] (id : String) (start : Registry) (actions : List Action) (number : Nat)
    (flag : Option Bool) : Prop :=
  ∃ before caseSensitive between begun, actions = before ++ .begin caseSensitive :: between ∧
    run id ⟨start, []⟩ before = some begun ∧ begun.sessions.length = number ∧
    begun.registry.flag? id = flag

theorem Began.append [PatternCompiler] {id : String} {start : Registry} {actions : List Action}
    {number : Nat} {flag : Option Bool} (began : Began id start actions number flag)
    (more : List Action) :
    Began id start (actions ++ more) number flag := by
  obtain ⟨before, caseSensitive, between, begun, rfl, runs, length, isFlag⟩ := began
  refine ⟨before, caseSensitive, between ++ more, begun, ?_, runs, length, isFlag⟩
  rw [List.append_assoc, List.cons_append]

/-! ### What a run keeps -/

/-- After a run each open edit knows whether the filter was on when it began.  The filter is there
once an edit has begun, stays off if it was off, and is as it was until the first edit begins. -/
structure Traced [PatternCompiler] (id : String) (start : Registry) (actions : List Action)
    (edits : Edits) : Prop where
  begun : ∀ number session, edits.open? number = some session → ∃ kind slot enabled,
    session.target = .existing id kind slot enabled ∧
      Began id start actions number (some enabled) ∧ (start.flag? id = some false → enabled = false)
  known : edits.sessions ≠ [] → (edits.registry.flag? id).isSome = true
  off : start.flag? id = some false → edits.registry.flag? id = some false
  stands : edits.sessions = [] → edits.registry.flag? id = start.flag? id

variable {id : String} {start : Registry} {actions : List Action} {edits after : Edits}

theorem traced_nil [PatternCompiler] (id : String) (start : Registry) : Traced id start []
    ⟨start, []⟩ where
  begun _ _ isOpen := nomatch isOpen
  known some := absurd rfl some
  off isOff := isOff
  stands _ := rfl

theorem open?_set_self (sessions : List (Option EditSession)) (registry : Registry) (number : Nat)
    (session : Option EditSession) :
    Edits.open? ⟨registry, sessions.set number session⟩ number =
      if number < sessions.length then session else none := by
  simp only [open?, List.getElem?_set_self']
  by_cases inRange : number < sessions.length
  · simp [inRange]
  · simp [inRange]

theorem open?_set_ne (sessions : List (Option EditSession)) (registry registry' : Registry)
    {number other : Nat} (apart : number ≠ other) (session : Option EditSession) :
    Edits.open? ⟨registry', sessions.set number session⟩ other =
      Edits.open? ⟨registry, sessions⟩ other := by
  simp only [open?, List.getElem?_set_ne apart]

theorem open?_concat_ne (sessions : List (Option EditSession)) (registry : Registry)
    {registry' : Registry} {number : Nat} (apart : number ≠ sessions.length)
    (session : Option EditSession) :
    Edits.open? ⟨registry', sessions ++ [session]⟩ number =
      Edits.open? ⟨registry, sessions⟩ number := by
  simp only [open?]
  rcases Nat.lt_or_gt_of_ne apart with before | behind
  · rw [List.getElem?_append_left before]
  · have outside : (sessions ++ [session]).length ≤ number := by
      rw [List.length_append, List.length_singleton]
      exact behind
    rw [List.getElem?_eq_none outside, List.getElem?_eq_none (Nat.le_of_lt behind)]

theorem ne_nil_of_open? {number : Nat} {session : EditSession}
    (isOpen : edits.open? number = some session) : edits.sessions ≠ [] := by
  intro none
  rw [open?, none] at isOpen
  cases isOpen

/-- An edit that is given up turns its filter on or off as it was. -/
theorem flag?_cancel {session : EditSession} {kind : FilterKind} {slot : Slot} {enabled : Bool}
    (target : session.target = .existing id kind slot enabled) (registry : Registry) :
    (session.cancel registry).flag? id = (registry.flag? id).map fun _ => enabled := by
  simp only [EditSession.cancel, target]
  exact registry.flag?_setEnabled? id enabled

section

variable [PatternCompiler]

/-- Whichever way an edit is closed, it is given up. -/
theorem Traced.closes (traced : Traced id start actions edits) {closing : Action} {number : Nat}
    (closes : closing.closes? = some number) (performs : perform id edits closing = some after) :
    ∃ session, edits.open? number = some session ∧
      after = ⟨session.cancel edits.registry, edits.sessions.set number none⟩ := by
  cases closing with
  | begin _ | preview _ _ | change _ => cases closes
  | cancel number =>
      cases closes
      obtain ⟨session, isOpen, rfl⟩ := Option.map_eq_some_iff.1 performs
      exact ⟨session, isOpen, rfl⟩
  | commit number =>
      cases closes
      obtain ⟨session, isOpen, closed⟩ := Option.bind_eq_some_iff.1 performs
      obtain ⟨kind, slot, enabled, target, _⟩ := traced.begun number session isOpen
      refine ⟨session, isOpen, ?_⟩
      split at closed
      next e registry commits =>
        have givesUp := EditSession.commit_of_error target (congrArg Prod.fst commits)
        rw [commits] at givesUp
        cases closed
        rw [← givesUp]
      next => cases closed

/-- An edit that is closed brings back what it knows of the filter. -/
theorem Traced.flag_eq (traced : Traced id start actions edits) {closing : Action} {number : Nat}
    (closes : closing.closes? = some number) (performs : perform id edits closing = some after) :
    ∃ enabled, after.registry.flag? id = some enabled ∧
      Began id start actions number (some enabled) ∧
      (start.flag? id = some false → enabled = false) := by
  obtain ⟨session, isOpen, rfl⟩ := traced.closes closes performs
  obtain ⟨kind, slot, enabled, target, began, off⟩ := traced.begun number session isOpen
  obtain ⟨flag, isFlag⟩ := Option.isSome_iff_exists.1 (traced.known (ne_nil_of_open? isOpen))
  refine ⟨enabled, ?_, began, off⟩
  rw [flag?_cancel target, isFlag, Option.map_some]

/-- What begins no edit changes at most what is entered for open edits, and closes some. -/
theorem Traced.next (traced : Traced id start actions edits)
    (opens : ∀ number session, after.open? number = some session →
      ∃ was, edits.open? number = some was ∧ session.target = was.target)
    (empty : after.sessions = [] ↔ edits.sessions = [])
    (known : edits.sessions ≠ [] → (after.registry.flag? id).isSome = true)
    (off : start.flag? id = some false → after.registry.flag? id = some false)
    (stands : edits.sessions = [] → after.registry.flag? id = edits.registry.flag? id)
    (action : Action) : Traced id start (actions ++ [action]) after where
  begun number session isOpen := by
    obtain ⟨was, wasOpen, target⟩ := opens number session isOpen
    obtain ⟨kind, slot, enabled, wasTarget, began, wasOff⟩ := traced.begun number was wasOpen
    exact ⟨kind, slot, enabled, target.trans wasTarget, began.append _, wasOff⟩
  known some := known (mt empty.2 some)
  off := off
  stands none := (stands (empty.1 none)).trans (traced.stands (empty.1 none))

/-- One more edit begins. -/
theorem Traced.begin (traced : Traced id start actions edits)
    (runs : run id ⟨start, []⟩ actions = some edits) {caseSensitive : Bool}
    (performs : perform id edits (.begin caseSensitive) = some after) :
    Traced id start (actions ++ [.begin caseSensitive]) after := by
  simp only [perform, EditSession.beginExisting] at performs
  cases found : edits.registry.find? id with
  | none =>
      rw [found] at performs
      cases performs
      exact traced.next (fun _ session isOpen => ⟨session, isOpen, rfl⟩) Iff.rfl traced.known
        traced.off (fun _ => rfl) _
  | some filter =>
      rw [found] at performs
      cases performs
      have flag : edits.registry.flag? id = some filter.enabled := by
        rw [Registry.flag?, found, Option.map_some]
      have turnedOff := edits.registry.flag?_setEnabled? id false
      rw [flag, Option.map_some] at turnedOff
      constructor
      case begun =>
        intro number session isOpen
        by_cases isNew : number = edits.sessions.length
        · subst isNew
          simp only [open?, List.getElem?_concat_length, Option.join_some,
            Option.some.injEq] at isOpen
          subst isOpen
          refine ⟨filter.kind, filter.index, filter.enabled, rfl, ?_, ?_⟩
          · exact ⟨actions, caseSensitive, [], edits, rfl, runs, rfl, flag⟩
          · intro isOff
            exact Option.some.inj (flag.symm.trans (traced.off isOff))
        · have wasOpen : edits.open? number = some session := by
            rw [open?_concat_ne _ _ isNew] at isOpen
            exact isOpen
          obtain ⟨kind, slot, enabled, target, began, off⟩ := traced.begun number session wasOpen
          exact ⟨kind, slot, enabled, target, began.append _, off⟩
      case known =>
        intro _
        rw [turnedOff]
        rfl
      case off =>
        intro _
        exact turnedOff
      case stands =>
        intro none
        exact absurd none (List.concat_ne_nil _ _)

/-- An edit is closed. -/
theorem Traced.close (traced : Traced id start actions edits) {closing : Action} {number : Nat}
    (closes : closing.closes? = some number) (performs : perform id edits closing = some after) :
    Traced id start (actions ++ [closing]) after := by
  obtain ⟨enabled, flag, _, off⟩ := traced.flag_eq closes performs
  obtain ⟨session, isOpen, rfl⟩ := traced.closes closes performs
  apply traced.next
  case opens =>
    intro other session' stillOpen
    by_cases same : number = other
    · subst same
      rw [open?_set_self, ite_self] at stillOpen
      cases stillOpen
    · rw [open?_set_ne _ edits.registry _ same] at stillOpen
      exact ⟨session', stillOpen, rfl⟩
  case empty => exact List.set_eq_nil_iff _ _
  case known =>
    intro _
    rw [flag]
    rfl
  case off =>
    intro isOff
    rw [flag, off isOff]
  case stands =>
    intro none
    exact absurd none (ne_nil_of_open? isOpen)

/-- A text is entered for an open edit. -/
theorem Traced.preview (traced : Traced id start actions edits) {number : Nat} {text : String}
    (performs : perform id edits (.preview number text) = some after) :
    Traced id start (actions ++ [.preview number text]) after := by
  obtain ⟨session, isOpen, rfl⟩ := Option.map_eq_some_iff.1 performs
  apply traced.next
  case opens =>
    intro other session' stillOpen
    by_cases same : number = other
    · subst same
      rw [open?_set_self] at stillOpen
      split at stillOpen
      · cases stillOpen
        exact ⟨session, isOpen, session.target_preview text⟩
      · cases stillOpen
    · rw [open?_set_ne _ edits.registry _ same] at stillOpen
      exact ⟨session', stillOpen, rfl⟩
  case empty => exact List.set_eq_nil_iff _ _
  case known => exact traced.known
  case off => exact traced.off
  case stands => exact fun _ => rfl

/-- Each action keeps the sessions and the switch of the filter traced by the history. -/
theorem Traced.step (traced : Traced id start actions edits)
    (runs : run id ⟨start, []⟩ actions = some edits) {action : Action}
    (performs : perform id edits action = some after) :
    Traced id start (actions ++ [action]) after := by
  cases action with
  | begin caseSensitive => exact traced.begin runs performs
  | preview number text => exact traced.preview performs
  | cancel number => exact traced.close rfl performs
  | commit number => exact traced.close rfl performs
  | change registry =>
      simp only [perform] at performs
      split at performs
      next same =>
        cases performs
        apply traced.next
        case opens => exact fun _ session isOpen => ⟨session, isOpen, rfl⟩
        case empty => exact Iff.rfl
        case known => exact fun some => same ▸ traced.known some
        case off => exact fun isOff => same.trans (traced.off isOff)
        case stands => exact fun _ => same
      next => cases performs

/-- At every point the sessions and the switch are those the history tells. -/
theorem run_traced (runs : run id ⟨start, []⟩ actions = some edits) :
    Traced id start actions edits := by
  induction actions using List.reverseRecOn generalizing edits with
  | nil =>
      cases runs
      exact traced_nil id start
  | append_singleton actions action ih =>
      rw [run_concat] at runs
      obtain ⟨middle, runsMiddle, performs⟩ := Option.bind_eq_some_iff.1 runs
      exact (ih runsMiddle).step runsMiddle performs

/-- However edits of one filter overlap, once one is closed the filter is on if and only if it was
when that edit began.  So the edit that is closed last decides; all is as it was before the first
one if the filter was off then, or if the first one is closed last. -/
theorem run_closed {number : Nat} {closing : Action} (closes : closing.closes? = some number)
    {final : Edits} (runs : run id ⟨start, []⟩ (actions ++ [closing]) = some final) :
    Began id start actions number (final.registry.flag? id) ∧
      (start.flag? id = some false ∨ number = 0 →
        final.registry.flag? id = start.flag? id) := by
  rw [run_concat] at runs
  obtain ⟨edits, runsBefore, performs⟩ := Option.bind_eq_some_iff.1 runs
  have traced := run_traced runsBefore
  obtain ⟨enabled, flag, began, off⟩ := traced.flag_eq closes performs
  rw [flag]
  refine ⟨began, ?_⟩
  rintro (isOff | rfl)
  · rw [isOff, off isOff]
  · -- Before the edit that began first there was none, so the filter was as it was at the start.
    obtain ⟨before, caseSensitive, between, begun, _, runsBegun, noSessions, flagBegun⟩ := began
    rw [← flagBegun]
    exact (run_traced runsBegun).stands (List.length_eq_zero_iff.1 noSessions)

end

/-- Two edits of which the second one is closed first, by a commit that is refused. -/
theorem run_closed_nested :
    let start : Registry := { filters := [Filter.sample .keep 0] }
    let actions : List Action := [.begin false, .begin false, .preview 1 "(", .commit 1]
    ∃ final, run "b" ⟨start, []⟩ (actions ++ [.cancel 0]) = some final ∧
      Began "b" start actions 0 (final.registry.flag? "b") ∧
      final.registry.flag? "b" = start.flag? "b" := by
  intro start actions
  have goesThrough : (run "b" ⟨start, []⟩ (actions ++ [.cancel 0])).isSome = true := by
    decide +kernel
  obtain ⟨final, runs⟩ := Option.isSome_iff_exists.1 goesThrough
  obtain ⟨began, same⟩ := run_closed rfl runs
  exact ⟨final, runs, began, same (Or.inr rfl)⟩

/-- Two edits that are closed in the order in which they began leave the filter off, though it was
on before. -/
theorem run_closed_off :
    let start : Registry := { filters := [Filter.sample .keep 0] }
    let actions : List Action := [.begin false, .begin false, .cancel 0, .cancel 1]
    ∃ final, run "b" ⟨start, []⟩ actions = some final ∧ final.sessions = [none, none] ∧
      start.flag? "b" = some true ∧ final.registry.flag? "b" = some false :=
  ⟨_, rfl, rfl, rfl, rfl⟩

end Edits

end LogLens
