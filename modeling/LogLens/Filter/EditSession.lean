/-
Module: LogLens.Filter.EditSession
Purpose: Editing the pattern of one filter.  The filter is off while its pattern is edited; every
  text entered is compiled at once, and only the last one can be installed.
Main exports: EditSession, EditSession.beginNew, EditSession.beginExisting, EditSession.preview,
  EditSession.commit, EditSession.cancel
-/
import LogLens.Filter.Registry

namespace LogLens

/-- What is being edited. -/
inductive EditTarget where
  /-- A filter that does not exist yet. -/
  | new (kind : FilterKind) (slot : Slot)
  /-- An installed filter, as it was when the session began. -/
  | existing (id : String) (kind : FilterKind) (slot : Slot) (wasEnabled : Bool)
deriving Repr, DecidableEq

/-- An edit of one filter. -/
structure EditSession where
  target : EditTarget
  caseSensitive : Bool
  /-- The last text that was a pattern. -/
  candidate : Option Pattern := none
  /-- The last text entered. -/
  text : Option String := none
deriving Repr

namespace EditSession

/-- Start to edit a filter that does not exist yet.  The first free place is meant for it. -/
def beginNew (registry : Registry) (kind : FilterKind) (caseSensitive : Bool) :
    Except FilterError EditSession := do
  let slot ← registry.nextSlot
  return { target := .new kind slot, caseSensitive }

/-- Start to edit an installed filter, which is turned off. -/
def beginExisting (registry : Registry) (id : String) (caseSensitive : Bool) :
    Except FilterError (EditSession × Registry) :=
  match registry.find? id with
  | none => .error (.unknownFilter id)
  | some filter =>
    let session : EditSession :=
      { target := .existing id filter.kind filter.index filter.enabled
        caseSensitive
        candidate := some filter.pattern }
    .ok (session, (registry.setEnabled? id false).getD registry)

/-- The kind of the filter. -/
def kind (session : EditSession) : FilterKind :=
  match session.target with
  | .new kind _ => kind
  | .existing _ kind _ _ => kind

/-- The place of the filter. -/
def slot (session : EditSession) : Slot :=
  match session.target with
  | .new _ slot => slot
  | .existing _ _ slot _ => slot

variable [PatternCompiler]

/-- Enter a text.  If it is no pattern the candidate stays, to go on highlighting by it. -/
def preview (session : EditSession) (text : String) : EditSession × Except FilterError Pattern :=
  let session := { session with text := some text }
  match Pattern.compile text session.caseSensitive with
  | .ok pattern => ({ session with candidate := some pattern }, .ok pattern)
  | .error e => (session, .error e)

/-- The matches of the candidate in a line. -/
def previewMatches (session : EditSession) (line : Bytes) : List (Nat × Nat) :=
  match session.candidate with
  | some pattern => pattern.findAll line
  | none => []

/-- The pattern to install: the last text entered, or else the pattern the filter has. -/
def finalPattern (session : EditSession) : Except FilterError Pattern :=
  match session.text, session.candidate with
  | some text, some candidate =>
    if candidate.source = text then .ok candidate
    else Pattern.compile text session.caseSensitive
  | some text, none => Pattern.compile text session.caseSensitive
  | none, some candidate => .ok candidate
  | none, none => .error .noPattern

/-- Give the edit up.  An installed filter is turned on again if it was on. -/
def cancel (session : EditSession) (registry : Registry) : Registry :=
  match session.target with
  | .new _ _ => registry
  | .existing id _ _ wasEnabled => (registry.setEnabled? id wasEnabled).getD registry

/-- Install the last text entered.  The filter is then on; if the text cannot be installed the edit
is given up. -/
def commit (session : EditSession) (registry : Registry) : Except FilterError Slot × Registry :=
  match session.finalPattern with
  | .error e => (.error e, session.cancel registry)
  | .ok pattern =>
    match session.target with
    | .new kind slot =>
      match registry.install (.new kind slot.val pattern) with
      | .error e => (.error e, registry)
      | .ok registry => (.ok slot, registry)
    | .existing id _ _ _ =>
      match registry.replacePattern id pattern with
      | .error e => (.error e, session.cancel registry)
      | .ok (slot, registry) =>
        (.ok slot, (registry.setEnabled? pattern.source true).getD registry)

end EditSession

end LogLens
