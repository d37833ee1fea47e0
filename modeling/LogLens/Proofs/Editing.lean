/-
Module: LogLens.Proofs.Editing
Purpose: What an edit of one filter does to the filters in force, when it begins, when it is given up
  and when it is to be installed.
Main exports: EditSession.beginExisting_ok, EditSession.Commits, EditSession.commits,
  EditSession.commit_evolves, EditSession.commit_renews, EditSession.commit_of_error
-/
import LogLens.Filter.EditSession
import LogLens.Proofs.Registration

namespace LogLens

namespace EditSession

open Registry

variable {registry : Registry} {Brought : Pattern → Prop}

/-- A text that is entered does not change what is edited. -/
theorem target_preview [PatternCompiler] (session : EditSession) (text : String) :
    (session.preview text).1.target = session.target := by
  unfold preview
  dsimp only
  split <;> rfl

/-- An edit of an installed filter notes how this is set and turns it off. -/
theorem beginExisting_ok {id : String} {caseSensitive : Bool} {session : EditSession}
    {after : Registry} (begins : beginExisting registry id caseSensitive = .ok (session, after)) :
    ∃ filter, registry.find? id = some filter ∧
      session.target = .existing id filter.kind filter.index filter.enabled ∧
      session.candidate = some filter.pattern ∧
      after = (registry.setEnabled? id false).getD registry := by
  unfold beginExisting at begins
  cases found : registry.find? id with
  | none =>
      rw [found] at begins
      cases begins
  | some filter =>
      rw [found] at begins
      cases begins
      exact ⟨filter, rfl, rfl, rfl, rfl⟩

/-- Opening a session on a filter is an ordinary change of the registry. -/
theorem beginExisting_evolves (wellFormed : registry.WellFormed) {id : String} {caseSensitive : Bool}
    {session : EditSession} {after : Registry}
    (begins : beginExisting registry id caseSensitive = .ok (session, after)) :
    registry.Evolves after := by
  obtain ⟨_, _, _, _, rfl⟩ := beginExisting_ok begins
  exact (registry.setEnabled?_adjusts id false).evolves wellFormed

/-- An edit that is given up at most turns a filter on. -/
theorem cancel_adjusts (session : EditSession) (registry : Registry) :
    registry.Adjusts (session.cancel registry) := by
  unfold cancel
  cases session.target with
  | new kind slot => exact registry.adjusts_refl
  | existing id kind slot wasEnabled => exact registry.setEnabled?_adjusts id wasEnabled

theorem cancel_evolves (wellFormed : registry.WellFormed) (session : EditSession) :
    registry.Evolves (session.cancel registry) :=
  (session.cancel_adjusts registry).evolves wellFormed

/-! ### Edits that are to be installed -/

variable [PatternCompiler]

/-- What comes of an edit that is to be installed: the answer, and the filters then. -/
inductive Commits (session : EditSession) (registry : Registry) :
    Except FilterError Slot × Registry → Prop where
  /-- The text is no pattern, or none was entered. -/
  | unfinished {e : FilterError} (final : session.finalPattern = .error e) :
      Commits session registry (.error e, session.cancel registry)
  /-- There is no room for a new filter, or its name or its place was taken meanwhile. -/
  | taken {pattern : Pattern} {kind : FilterKind} {slot : Slot} {e : FilterError}
      (final : session.finalPattern = .ok pattern) (target : session.target = .new kind slot)
      (refuses : registry.install (.new kind slot.val pattern) = .error e) :
      Commits session registry (.error e, registry)
  | installed {pattern : Pattern} {kind : FilterKind} {slot : Slot} {after : Registry}
      (final : session.finalPattern = .ok pattern) (target : session.target = .new kind slot)
      (installs : registry.install (.new kind slot.val pattern) = .ok after) :
      Commits session registry (.ok slot, after)
  /-- The filter is gone, or another one has the name that it would have. -/
  | notReplaced {pattern : Pattern} {id : String} {kind : FilterKind} {place : Slot}
      {wasEnabled : Bool} {e : FilterError} (final : session.finalPattern = .ok pattern)
      (target : session.target = .existing id kind place wasEnabled)
      (refuses : registry.replacePattern id pattern = .error e) :
      Commits session registry (.error e, session.cancel registry)
  | replaced {pattern : Pattern} {id : String} {kind : FilterKind} {place : Slot}
      {wasEnabled : Bool} {slot : Slot} {after : Registry}
      (final : session.finalPattern = .ok pattern)
      (target : session.target = .existing id kind place wasEnabled)
      (replaces : registry.replacePattern id pattern = .ok (slot, after)) :
      Commits session registry (.ok slot, (after.setEnabled? pattern.source true).getD after)

/-- A commit ends in one of the outcomes that `Commits` lists. -/
theorem commits (session : EditSession) (registry : Registry) :
    session.Commits registry (session.commit registry) := by
  unfold commit
  cases final : session.finalPattern with
  | error e => exact .unfinished final
  | ok pattern =>
      cases target : session.target with
      | new kind slot =>
          dsimp only
          cases installs : registry.install (.new kind slot.val pattern) with
          | error e => exact .taken final target installs
          | ok after => exact .installed final target installs
      | existing id kind place wasEnabled =>
          dsimp only
          cases replaces : registry.replacePattern id pattern with
          | error e => exact .notReplaced final target replaces
          | ok answer => exact .replaced final target replaces

/-- Whatever was edited, and whether or not it can be installed. -/
theorem commit_evolves (wellFormed : registry.WellFormed) (session : EditSession) :
    registry.Evolves (session.commit registry).2 := by
  have commits := session.commits registry
  generalize session.commit registry = result at commits
  cases commits with
  | unfinished _ | notReplaced _ _ _ => exact session.cancel_evolves wellFormed
  | taken _ _ _ => exact wellFormed.evolves_refl
  | installed _ _ installs => exact install_evolves wellFormed rfl rfl installs
  | replaced _ _ replaces =>
      have evolves := replacePattern_evolves wellFormed replaces
      exact evolves.trans ((setEnabled?_adjusts _ _ true).evolves evolves.wellFormed)

theorem commit_renews (session : EditSession) (registry : Registry)
    (brought : ∀ pattern, session.finalPattern = .ok pattern → Brought pattern) :
    registry.Renews (session.commit registry).2 Brought := by
  have commits := session.commits registry
  generalize session.commit registry = result at commits
  cases commits with
  | unfinished _ | notReplaced _ _ _ => exact (session.cancel_adjusts registry).renews
  | taken _ _ _ => exact registry.renews_refl
  | installed final _ installs => exact install_renews installs (brought _ final)
  | replaced final _ replaces =>
      have renews := replacePattern_renews replaces (brought _ final)
      exact renews.trans (setEnabled?_adjusts _ _ true).renews

/-- An edit of an installed filter that cannot be installed is given up. -/
theorem commit_of_error {session : EditSession} {registry : Registry} {id : String}
    {kind : FilterKind} {slot : Slot} {wasEnabled : Bool} {e : FilterError}
    (target : session.target = .existing id kind slot wasEnabled)
    (fails : (session.commit registry).1 = .error e) :
    (session.commit registry).2 = session.cancel registry := by
  have commits := session.commits registry
  generalize session.commit registry = result at commits fails
  cases commits with
  | unfinished _ | notReplaced _ _ _ => rfl
  | taken _ isNew _ | installed _ isNew _ => cases target.symm.trans isNew
  | replaced _ _ _ => cases fails

end EditSession

end LogLens
