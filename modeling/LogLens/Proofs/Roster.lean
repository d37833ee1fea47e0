/-
Module: LogLens.Proofs.Roster
Purpose: Filters that come and go by requests of every kind, edits among them and refused requests
  included.  Whatever was asked for, the filters are in order afterwards, and each one stands at the
  place that it was added with.
Main exports: EditSession.Compiled, Roster, Roster.Request, Roster.perform, Roster.run,
  Roster.Orderly, Roster.Orderly.perform, Roster.run_enrolled
-/
import LogLens.Proofs.Enrolling

namespace LogLens

/-! ### Edits -/

namespace EditSession

variable [PatternCompiler]

/-- An edit whose candidate was compiled. -/
def Compiled (session : EditSession) : Prop := ∀ pattern ∈ session.candidate, pattern.Compiled

variable {session : EditSession}

theorem Compiled.finalPattern (compiled : session.Compiled) {pattern : Pattern}
    (final : session.finalPattern = .ok pattern) : pattern.Compiled := by
  unfold EditSession.finalPattern at final
  cases entered : session.text with
  | none =>
      cases isCandidate : session.candidate with
      | none =>
          simp only [entered, isCandidate] at final
          cases final
      | some candidate =>
          simp only [entered, isCandidate] at final
          cases final
          exact compiled pattern isCandidate
  | some text =>
      cases isCandidate : session.candidate with
      | none =>
          simp only [entered, isCandidate] at final
          exact Pattern.compiled_of_compile final
      | some candidate =>
          simp only [entered, isCandidate] at final
          split at final
          · cases final
            exact compiled pattern isCandidate
          · exact Pattern.compiled_of_compile final

theorem Compiled.preview (compiled : session.Compiled) (text : String) :
    (session.preview text).1.Compiled := by
  unfold EditSession.preview
  dsimp only
  cases compiles : Pattern.compile text session.caseSensitive with
  | error e => exact compiled
  | ok pattern =>
      rintro _ ⟨⟩
      exact Pattern.compiled_of_compile compiles

/-- A session for a new filter starts without a pattern. -/
theorem compiled_of_beginNew {registry : Registry} {kind : FilterKind} {caseSensitive : Bool}
    (begins : beginNew registry kind caseSensitive = .ok session) : session.Compiled := by
  obtain ⟨slot, _, begins⟩ := ok_of_bind begins
  cases begins
  exact nofun

theorem compiled_of_beginExisting {registry after : Registry} {id : String} {caseSensitive : Bool}
    (compiled : ∀ filter ∈ registry.filters, filter.pattern.Compiled)
    (begins : beginExisting registry id caseSensitive = .ok (session, after)) :
    session.Compiled := by
  obtain ⟨filter, found, _, candidate, _⟩ := beginExisting_ok begins
  intro pattern isCandidate
  rw [candidate] at isCandidate
  cases isCandidate
  exact compiled filter (List.mem_of_find?_eq_some found)

end EditSession

/-! ### Requests of every kind -/

/-- The filters in force and the edits that are open.  Of each filter that was added and not deleted
since it is recorded which name it goes by and which place it was added with. -/
structure Roster where
  registry : Registry := {}
  sessions : List EditSession := []
  ledger : List (String × Nat) := []

namespace Roster

/-- What can be asked for.  Patterns are entered as texts; open edits go by their number. -/
inductive Request where
  /-- Compile a pattern and add a filter for it at the given place. -/
  | add (kind : FilterKind) (index : Nat) (source : String) (caseSensitive enabled : Bool)
  /-- Compile a pattern and add a filter for it at the first free place. -/
  | addPattern (kind : FilterKind) (source : String) (caseSensitive : Bool)
  | delete (id : String)
  | replacePattern (id source : String) (caseSensitive : Bool)
  | setEnabled (id : String) (enabled : Bool)
  | setKind (id : String) (kind : FilterKind)
  /-- Start to edit a filter that does not exist yet. -/
  | beginNew (kind : FilterKind) (caseSensitive : Bool)
  | beginEdit (id : String) (caseSensitive : Bool)
  | preview (number : Nat) (text : String)
  | commit (number : Nat)
  | cancel (number : Nat)

section

variable [PatternCompiler]

/-- The change of the filters that is asked for; none if the text is no pattern or no such edit is
open. -/
def change? (roster : Roster) : Request → Option Registry.Change
  | .add kind index source caseSensitive enabled =>
    (Pattern.compile source caseSensitive).toOption.map (.install kind index · enabled)
  | .addPattern kind source caseSensitive => some (.addPattern kind source caseSensitive)
  | .delete id => some (.delete id)
  | .replacePattern id source caseSensitive =>
    (Pattern.compile source caseSensitive).toOption.map (.replacePattern id ·)
  | .setEnabled id enabled => some (.setEnabled id enabled)
  | .setKind id kind => some (.setKind id kind)
  | .beginEdit id caseSensitive => some (.beginEdit id caseSensitive)
  | .commit number => roster.sessions[number]?.map .commitEdit
  | .cancel number => roster.sessions[number]?.map .cancelEdit
  | .beginNew _ _ | .preview _ _ => none

/-- The edits that are open after a request. -/
def sessionsAfter (roster : Roster) : Request → List EditSession
  | .beginNew kind caseSensitive =>
    roster.sessions ++ (EditSession.beginNew roster.registry kind caseSensitive).toOption.toList
  | .beginEdit id caseSensitive =>
    roster.sessions ++
      ((EditSession.beginExisting roster.registry id caseSensitive).toOption.map Prod.fst).toList
  | .preview number text =>
    roster.sessions.modify number fun session => (session.preview text).1
  | .commit number | .cancel number => roster.sessions.eraseIdx number
  | _ => roster.sessions

/-- Do what is asked for, if it can be done, and keep the record. -/
def perform (roster : Roster) (request : Request) : Roster :=
  match roster.change? request with
  | none => { roster with sessions := roster.sessionsAfter request }
  | some change =>
    { registry := roster.registry.change change
      sessions := roster.sessionsAfter request
      ledger := roster.registry.enroll change roster.ledger }

def run (roster : Roster) (requests : List Request) : Roster := requests.foldl perform roster

/-- No two filters have one name or one place, all patterns were compiled, and the filters are the
ones on record. -/
structure Orderly (roster : Roster) : Prop where
  wellFormed : roster.registry.WellFormed
  compiled : ∀ filter ∈ roster.registry.filters, filter.pattern.Compiled
  sessions : ∀ session ∈ roster.sessions, session.Compiled
  recorded : roster.registry.roles = roster.ledger

variable {roster : Roster}

theorem orderly_empty : ({} : Roster).Orderly where
  wellFormed := Registry.wellFormed_empty
  compiled := by simp
  sessions := by simp
  recorded := rfl

/-- Whatever a request brings was compiled, be it for the request or for an edit. -/
theorem Orderly.brings (orderly : roster.Orderly) {request : Request} {change : Registry.Change}
    (asked : roster.change? request = some change) {pattern : Pattern}
    (brings : change.Brings pattern) : pattern.Compiled := by
  cases request with
  | add kind index source caseSensitive enabled =>
      obtain ⟨own, compiles, rfl⟩ := Option.map_eq_some_iff.1 asked
      cases brings
      exact Pattern.compiled_of_compile (ok_of_toOption compiles)
  | addPattern kind source caseSensitive =>
      cases asked
      exact Pattern.compiled_of_compile brings
  | replacePattern id source caseSensitive =>
      obtain ⟨own, compiles, rfl⟩ := Option.map_eq_some_iff.1 asked
      cases brings
      exact Pattern.compiled_of_compile (ok_of_toOption compiles)
  | commit number =>
      obtain ⟨session, isOpen, rfl⟩ := Option.map_eq_some_iff.1 asked
      exact (orderly.sessions session (List.mem_of_getElem? isOpen)).finalPattern brings
  | cancel number =>
      obtain ⟨session, _, rfl⟩ := Option.map_eq_some_iff.1 asked
      cases brings
  | delete id | setEnabled id enabled | setKind id kind | beginEdit id caseSensitive =>
      cases asked
      cases brings
  | beginNew kind caseSensitive | preview number text => cases asked

/-- Every session that is open after a request holds a compiled pattern. -/
theorem Orderly.sessionsAfter (orderly : roster.Orderly) (request : Request) :
    ∀ session ∈ roster.sessionsAfter request, session.Compiled := by
  intro session member
  cases request with
  | beginNew kind caseSensitive =>
      rcases List.mem_append.1 member with wasOpen | begun
      · exact orderly.sessions session wasOpen
      · exact EditSession.compiled_of_beginNew (ok_of_toOption (Option.mem_toList.1 begun))
  | beginEdit id caseSensitive =>
      rcases List.mem_append.1 member with wasOpen | begun
      · exact orderly.sessions session wasOpen
      · obtain ⟨answer, begins, rfl⟩ := Option.map_eq_some_iff.1 (Option.mem_toList.1 begun)
        exact EditSession.compiled_of_beginExisting orderly.compiled (ok_of_toOption begins)
  | preview number text =>
      obtain ⟨other, isOpen⟩ := List.mem_iff_getElem?.1 member
      rw [Roster.sessionsAfter, List.getElem?_modify] at isOpen
      obtain ⟨old, wasOpen, rfl⟩ := Option.map_eq_some_iff.1 isOpen
      have compiled := orderly.sessions old (List.mem_of_getElem? wasOpen)
      split
      · exact compiled.preview text
      · exact compiled
  | commit number | cancel number =>
      exact orderly.sessions session (List.mem_of_mem_eraseIdx member)
  | add _ _ _ _ _ | addPattern _ _ _ | delete _ | replacePattern _ _ _ | setEnabled _ _
  | setKind _ _ => exact orderly.sessions session member

/-- Each request keeps the roster orderly, whether it is granted or refused. -/
theorem Orderly.perform (orderly : roster.Orderly) (request : Request) :
    (roster.perform request).Orderly := by
  unfold Roster.perform
  cases asked : roster.change? request with
  | none => exact { orderly with sessions := orderly.sessionsAfter request }
  | some change =>
      constructor
      case wellFormed => exact (Registry.change_evolves orderly.wellFormed change).wellFormed
      case compiled =>
        intro filter member
        rcases roster.registry.change_renews change filter member with ⟨old, isOld, same⟩ | brought
        · exact same ▸ orderly.compiled old isOld
        · exact orderly.brings asked brought
      case sessions => exact orderly.sessionsAfter request
      case recorded =>
        dsimp only
        rw [Registry.roles_change orderly.wellFormed, orderly.recorded]

/-- Every sequence of requests keeps the roster orderly. -/
theorem Orderly.run (orderly : roster.Orderly) (requests : List Request) :
    (roster.run requests).Orderly := by
  induction requests generalizing roster with
  | nil => exact orderly
  | cons request rest ih => exact ih (orderly.perform request)

/-- Whatever is asked for, the filters are in order afterwards, and each one stands at the place that
it was added with. -/
theorem run_enrolled (requests : List Request) :
    (run {} requests).registry.Enrolled ∧
      (run {} requests).registry.roles = (run {} requests).ledger := by
  have orderly := orderly_empty.run requests
  exact ⟨orderly.wellFormed.enrolled orderly.compiled, orderly.recorded⟩

end

/-- The place of a deleted filter is meant for a new one, and taken by yet another one while the text
of the new one is entered. -/
example : (run {} [.addPattern .keep "a" false, .add .hide 5 "b" false true, .delete "a",
    .beginNew .keep false, .preview 0 "c", .addPattern .keep "d" false,
    .replacePattern "b" "e" false, .commit 0]).ledger = [("e", 5), ("d", 0)] := by
  decide +kernel

end Roster

end LogLens
