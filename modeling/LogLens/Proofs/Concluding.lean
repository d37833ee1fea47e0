/-
Module: LogLens.Proofs.Concluding
Purpose: What comes of an edit that is to be installed when nothing but texts was entered since it
  began.  The last text decides, and no text before it matters: whether it is a pattern, whether another
  filter goes by it, and which filter there is in the end.
Main exports: EditSession.Opens, EditSession.Faithful, EditSession.finalPattern_enter,
  EditSession.Concludes, EditSession.commit_concludes
-/
import LogLens.Proofs.Closing
import LogLens.Regex.Compile

namespace LogLens

/-- A text that does not compile is refused as a pattern. -/
theorem Pattern.error_of_compile [PatternCompiler] {source : String} {caseSensitive : Bool}
    {e : FilterError} (refused : compile source caseSensitive = .error e) :
    ∃ cause, e = .invalidPattern source cause := by
  unfold compile at refused
  split at refused
  · cases refused
  next cause _ =>
    cases refused
    exact ⟨cause, rfl⟩

/-! ### Filters that are free to change -/

namespace Registry

variable {registry : Registry}

theorem install_of_taken (new : Filter Nat) {other : Installed} (room : registry.isFull = false)
    (member : other ∈ registry.filters) (taken : other.id = new.id) :
    registry.install new = .error (.duplicateFilter new.id) := by
  rw [install, room, if_neg Bool.false_ne_true, if_pos (isSome_find?_iff.2 ⟨other, member, taken⟩)]

theorem replacePattern_of_taken {id : String} {pattern : Pattern} {other : Installed}
    (member : other ∈ registry.filters) (taken : other.id = pattern.source)
    (isOther : id ≠ pattern.source) :
    registry.replacePattern id pattern = .error (.duplicateFilter pattern.source) := by
  rw [replacePattern, if_pos ⟨isOther, isSome_find?_iff.2 ⟨other, member, taken⟩⟩]

/-- The filter of a name takes a pattern where it stands. -/
theorem replacePattern_of_free {id : String} {pattern : Pattern} {front back : List Installed}
    {filter : Installed} (whole : registry.filters = front ++ filter :: back)
    (named : filter.id = id) (first : ∀ other ∈ front, other.id ≠ id)
    (free : ∀ other ∈ registry.filters, other.id = pattern.source → id = pattern.source) :
    registry.replacePattern id pattern = .ok (filter.index,
      { registry with filters := front ++ filter.replacePattern pattern :: back }.touch
        filter.index) := by
  have notTaken : ¬(id ≠ pattern.source ∧ (registry.find? pattern.source).isSome) := by
    rintro ⟨isOther, found⟩
    obtain ⟨other, member, taken⟩ := isSome_find?_iff.1 found
    exact isOther (free other member taken)
  rw [replacePattern, if_neg notTaken, find?_of_between whole named first, whole]
  dsimp only
  rw [modifyFirst_append]
  · exact beq_iff_eq.2 named
  · intro other inFront
    simpa using first other inFront

end Registry

namespace EditSession

variable {before begun : Registry} {caseSensitive : Bool} {session : EditSession}

/-! ### The pattern that is to be installed -/

/-- An edit that is opened, and the filters then. -/
inductive Opens (before : Registry) (caseSensitive : Bool) : EditSession → Registry → Prop where
  | new {kind : FilterKind} {session : EditSession}
      (begins : beginNew before kind caseSensitive = .ok session) :
      Opens before caseSensitive session before
  | existing {id : String} {session : EditSession} {begun : Registry}
      (begins : beginExisting before id caseSensitive = .ok (session, begun)) :
      Opens before caseSensitive session begun

section

variable [PatternCompiler]

/-- The candidate of an edit is what its text compiles to. -/
def Faithful (session : EditSession) : Prop :=
  ∀ pattern ∈ session.candidate,
    Pattern.compile pattern.source session.caseSensitive = .ok pattern

theorem caseSensitive_preview (session : EditSession) (text : String) :
    (session.preview text).1.caseSensitive = session.caseSensitive := by
  unfold preview
  dsimp only
  split <;> rfl

theorem text_preview (session : EditSession) (text : String) :
    (session.preview text).1.text = some text := by
  unfold preview
  dsimp only
  split <;> rfl

theorem Faithful.preview (faithful : session.Faithful) (text : String) :
    (session.preview text).1.Faithful := by
  unfold EditSession.preview
  dsimp only
  cases compiles : Pattern.compile text session.caseSensitive with
  | error e => exact faithful
  | ok pattern =>
      rintro _ ⟨⟩
      rw [← Pattern.source_of_compile compiles] at compiles
      exact compiles

theorem Faithful.enter (faithful : session.Faithful) (texts : List String) :
    (session.enter texts).Faithful ∧
      (session.enter texts).caseSensitive = session.caseSensitive := by
  induction texts generalizing session with
  | nil => exact ⟨faithful, rfl⟩
  | cons text rest ih =>
      obtain ⟨still, same⟩ := ih (faithful.preview text)
      exact ⟨still, same.trans (session.caseSensitive_preview text)⟩

/-- Once a text is entered, it is this one that is to be installed, whatever the candidate is. -/
theorem Faithful.finalPattern (faithful : session.Faithful) {text : String}
    (entered : session.text = some text) :
    session.finalPattern = Pattern.compile text session.caseSensitive := by
  unfold EditSession.finalPattern
  rw [entered]
  cases isCandidate : session.candidate with
  | none => rfl
  | some candidate =>
      dsimp only
      split
      next same =>
        rw [← same]
        exact (faithful candidate isCandidate).symm
      · rfl

/-- Of several texts the last one is to be installed. -/
theorem finalPattern_enter (faithful : session.Faithful) (texts : List String) :
    (session.enter texts).finalPattern =
      (texts.getLast?.map (Pattern.compile · session.caseSensitive)).getD session.finalPattern := by
  rcases List.eq_nil_or_concat texts with rfl | ⟨earlier, text, rfl⟩
  · rfl
  · obtain ⟨still, same⟩ := faithful.enter earlier
    have last : session.enter (earlier.concat text) = ((session.enter earlier).preview text).1 := by
      rw [enter, List.concat_eq_append, List.foldl_append]
      rfl
    rw [last, (still.preview text).finalPattern (text_preview ..), caseSensitive_preview, same]
    simp

/-! ### What comes of an edit -/

/-- The name of the filter that is edited; none if it does not exist yet. -/
def ownName? (session : EditSession) : Option String :=
  match session.target with
  | .new _ _ => none
  | .existing id _ _ _ => some id

/-- What comes of an edit that was opened on the filters `before` and of which `last?` is the last
text entered: the answer, and the filters then. -/
inductive Concludes (before : Registry) (session : EditSession) (last? : Option String) :
    Except FilterError Slot × Registry → Prop where
  /-- A new filter needs a text. -/
  | nothing (isNew : session.ownName? = none) (empty : last? = none) :
      Concludes before session last? (.error .noPattern, before)
  /-- The last text is no pattern. -/
  | invalid {text cause : String} (entered : last? = some text)
      (refused : Pattern.compile text session.caseSensitive =
        .error (.invalidPattern text cause)) :
      Concludes before session last? (.error (.invalidPattern text cause), before)
  /-- Another filter goes by the last text. -/
  | duplicate {text : String} {pattern : Pattern} {other : Installed} (entered : last? = some text)
      (compiles : Pattern.compile text session.caseSensitive = .ok pattern)
      (member : other ∈ before.filters) (taken : other.id = text)
      (isOther : session.ownName? ≠ some text) :
      Concludes before session last? (.error (.duplicateFilter text), before)
  /-- A new filter stands behind the others. -/
  | added {text : String} {pattern : Pattern} (isNew : session.ownName? = none)
      (entered : last? = some text)
      (compiles : Pattern.compile text session.caseSensitive = .ok pattern)
      (named : pattern.source = text) (free : ∀ other ∈ before.filters, other.id ≠ text) :
      Concludes before session last? (.ok session.slot,
        Registry.touch { before with
          filters := before.filters ++
            [.new session.kind session.slot pattern] }
          session.slot)
  /-- An installed filter stands where it stood, with the pattern of the last text or else its own,
  and its messages are forgotten. -/
  | replaced {front back : List Installed} {filter : Installed} {pattern : Pattern}
      (whole : before.filters = front ++ filter :: back)
      (first : ∀ other ∈ front, other.id ≠ filter.id)
      (own : session.ownName? = some filter.id) (place : session.slot = filter.index)
      (compiles : ∀ text ∈ last?, Pattern.compile text session.caseSensitive = .ok pattern)
      (kept : last? = none → pattern = filter.pattern)
      (named : pattern.source = last?.getD filter.id)
      (free : ∀ other ∈ before.filters, other.id = pattern.source → filter.id = pattern.source) :
      Concludes before session last? (.ok filter.index,
        Registry.touch { before with
          filters := front ++
            { filter with
              pattern, id := pattern.source, enabled := true, pending := {}, last := none,
              named := rfl } :: back }
          filter.index)

section

variable {kind : FilterKind} {slot : Slot} {last? : Option String} {closing : EditSession}

/-- A new filter is installed at the place that was meant for it. -/
theorem concludes_new (target : session.target = .new kind slot)
    (next : before.nextSlot = .ok slot) (isClosing : closing.target = session.target)
    (final : closing.finalPattern =
      (last?.map (Pattern.compile · session.caseSensitive)).getD (.error .noPattern)) :
    session.Concludes before last? (closing.commit before) := by
  obtain ⟨room, unused, _⟩ := Registry.nextSlot_first next
  have isNew : session.ownName? = none := by rw [ownName?, target]
  have sameKind : session.kind = kind := by rw [EditSession.kind, target]
  have sameSlot : session.slot = slot := by rw [EditSession.slot, target]
  cases last? with
  | none =>
      simp only [commit, final, cancel, isClosing, target, Option.map_none, Option.getD_none]
      exact .nothing isNew rfl
  | some text =>
      rw [Option.map_some, Option.getD_some] at final
      cases compiles : Pattern.compile text session.caseSensitive with
      | error e =>
          obtain ⟨cause, rfl⟩ := Pattern.error_of_compile compiles
          simp only [commit, final, compiles, cancel, isClosing, target]
          exact .invalid rfl compiles
      | ok pattern =>
          let new : Filter Nat := .new kind slot.val pattern
          have named : new.id = text := Pattern.source_of_compile compiles
          simp only [commit, final, compiles, isClosing, target]
          by_cases free : ∀ other ∈ before.filters, other.id ≠ text
          · have concludes := Concludes.added isNew rfl compiles named free
            rw [sameKind, sameSlot] at concludes
            rw [Registry.install_of_free new rfl room (by rwa [named]) unused]
            exact concludes
          · push Not at free
            obtain ⟨other, member, taken⟩ := free
            rw [Registry.install_of_taken new room member (by rwa [named]), named]
            exact .duplicate rfl compiles member taken (by simp [isNew])

end

section

variable {front back : List Installed} {filter : Installed} {last? : Option String}
  {closing : EditSession} (whole : before.filters = front ++ filter :: back)
  (first : ∀ other ∈ front, other.id ≠ filter.id)
  (off : begun.filters = front ++ filter.setEnabled false :: back)
  (noted : begun.dirty = before.dirty)
  (target : closing.target = .existing filter.id filter.kind filter.index filter.enabled)
include whole off

omit [PatternCompiler] in
/-- A filter goes by its name whether or not it is turned off. -/
theorem named_begun (name : String) :
    (∃ other ∈ begun.filters, other.id = name) ↔ ∃ other ∈ before.filters, other.id = name := by
  have sameNames : begun.filters.map Filter.id = before.filters.map Filter.id := by
    rw [whole, off, List.map_append, List.map_append, List.map_cons, List.map_cons]
    rfl
  rw [← List.mem_map, ← List.mem_map, sameNames]

include first noted target

omit [PatternCompiler] in
/-- A filter that is edited is set as it was when the edit is given up. -/
theorem cancel_begun : closing.cancel begun = before := by
  have named : (filter.setEnabled false).id = filter.id := rfl
  rw [cancel, target]
  dsimp only
  rw [Registry.setEnabled?, Registry.modify?_of_between off named first, Option.getD_some, noted]
  exact congrArg (Registry.mk · before.dirty) whole.symm

/-- A filter that is edited takes the pattern where it stands. -/
theorem commit_begun {pattern : Pattern} (final : closing.finalPattern = .ok pattern)
    (free : ∀ other ∈ before.filters, other.id = pattern.source → filter.id = pattern.source) :
    closing.commit begun = (.ok filter.index, Registry.touch { before with
      filters := front ++
        { filter with
              pattern, id := pattern.source, enabled := true, pending := {}, last := none,
              named := rfl } :: back }
      filter.index) := by
  have stillFree : ∀ other ∈ begun.filters, other.id = pattern.source →
      filter.id = pattern.source := by
    intro other member same
    obtain ⟨other', member', same'⟩ := (named_begun whole off _).1 ⟨other, member, same⟩
    exact free other' member' same'
  have apart : ∀ other ∈ front, other.id ≠ pattern.source := by
    intro other inFront same
    have isOwn := free other (by rw [whole]; exact List.mem_append_left _ inFront) same
    exact first other inFront (same.trans isOwn.symm)
  have named : (filter.setEnabled false).id = filter.id := rfl
  have replaced : ((filter.setEnabled false).replacePattern pattern).id = pattern.source := rfl
  simp only [commit, final, target, Registry.setEnabled?,
    Registry.replacePattern_of_free off named first stillFree]
  rw [Registry.modify?_of_between (Registry.filters_touch ..) replaced apart, noted]
  rfl

/-- An installed filter takes the pattern where it stands, or it is set as it was. -/
theorem concludes_existing (isClosing : closing.target = session.target)
    (final : closing.finalPattern =
      (last?.map (Pattern.compile · session.caseSensitive)).getD (.ok filter.pattern)) :
    session.Concludes before last? (closing.commit begun) := by
  have own : session.ownName? = some filter.id := by rw [ownName?, ← isClosing, target]
  have place : session.slot = filter.index := by rw [EditSession.slot, ← isClosing, target]
  have cancels := cancel_begun whole first off noted target
  cases final' : closing.finalPattern with
  | error e =>
      simp only [commit, final', cancels]
      cases last? with
      | none => cases final.symm.trans final'
      | some text =>
          have refused := final.symm.trans final'
          obtain ⟨cause, rfl⟩ := Pattern.error_of_compile refused
          exact .invalid rfl refused
  | ok pattern =>
      by_cases free : ∀ other ∈ before.filters, other.id = pattern.source → filter.id = pattern.source
      · rw [commit_begun whole first off noted target final' free]
        have compiles : ∀ text ∈ last?,
            Pattern.compile text session.caseSensitive = .ok pattern := by
          rintro text ⟨⟩
          exact final.symm.trans final'
        have kept : last? = none → pattern = filter.pattern := by
          rintro rfl
          cases final.symm.trans final'
          rfl
        refine .replaced whole first own place compiles kept ?_ free
        cases last? with
        | none => exact (congrArg Pattern.source (kept rfl)).trans filter.named.symm
        | some text => exact Pattern.source_of_compile (compiles text rfl)
      · push Not at free
        obtain ⟨other, member, taken, isOther⟩ := free
        obtain ⟨other', member', taken'⟩ := (named_begun whole off _).2 ⟨other, member, taken⟩
        simp only [commit, final', target, cancels,
          Registry.replacePattern_of_taken member' taken' isOther]
        cases last? with
        | none =>
            cases final.symm.trans final'
            exact absurd filter.named isOther
        | some text =>
            have compiles := final.symm.trans final'
            have source := Pattern.source_of_compile compiles
            rw [source] at taken isOther ⊢
            exact .duplicate rfl compiles member taken (by simpa [own] using isOther)

end

/-- An edit is opened, texts are entered, and it is to be installed.  What comes of it hangs on the
last text alone. -/
theorem commit_concludes (opens : Opens before caseSensitive session begun)
    (compiled : ∀ filter ∈ before.filters,
      Pattern.compile filter.id caseSensitive = .ok filter.pattern) (texts : List String) :
    session.caseSensitive = caseSensitive ∧
      session.Concludes before texts.getLast? ((session.enter texts).commit begun) := by
  cases opens with
  | new begins =>
      obtain ⟨slot, next, begins⟩ := ok_of_bind begins
      cases begins
      refine ⟨rfl, concludes_new rfl next (target_enter _ texts) ?_⟩
      refine finalPattern_enter ?_ texts
      rintro _ ⟨⟩
  | @existing id _ _ begins =>
      unfold beginExisting at begins
      cases found : before.find? id with
      | none =>
          rw [found] at begins
          cases begins
      | some filter =>
          rw [found] at begins
          cases begins
          obtain ⟨front, back, whole, rfl, first⟩ := Registry.between_of_find? found
          have faithful := compiled filter (List.mem_of_find?_eq_some found)
          refine ⟨rfl, concludes_existing whole first ?_ ?_ (target_enter _ texts)
            (target_enter _ texts) ?_⟩
          · rw [Registry.setEnabled?, Registry.modify?_of_between whole rfl first, Option.getD_some]
          · rw [Registry.setEnabled?, Registry.modify?_of_between whole rfl first, Option.getD_some]
          · refine finalPattern_enter ?_ texts
            rintro _ ⟨⟩
            rwa [← filter.named]

end

/-- The pattern of a filter is edited.  A text is entered that is a pattern, and another one that is
none, which decides. -/
theorem commit_concludes_invalid :
    ∃ pattern, Pattern.compile "b" true = .ok pattern ∧
      let before : Registry := { filters := [.new .keep 1 pattern] }
      ∃ session begun, beginExisting before "b" true = .ok (session, begun) ∧
        session.Concludes before (some "(") ((session.enter ["c", "("]).commit begun) := by
  have isPattern : (Pattern.compile "b" true).toOption.isSome = true := by decide +kernel
  cases compiles : Pattern.compile "b" true with
  | error e =>
      rw [compiles] at isPattern
      cases isPattern
  | ok pattern =>
      refine ⟨pattern, rfl, ?_⟩
      intro before
      have named : pattern.source = "b" := Pattern.source_of_compile compiles
      have found : before.find? "b" = some (.new .keep 1 pattern) :=
        Registry.find?_of_between (List.nil_append _).symm named nofun
      obtain ⟨session, begun, begins⟩ : ∃ session begun,
          beginExisting before "b" true = .ok (session, begun) := by
        rw [beginExisting, found]
        exact ⟨_, _, rfl⟩
      have compiled : ∀ filter ∈ before.filters,
          Pattern.compile filter.id true = .ok filter.pattern := by
        intro filter member
        obtain rfl := List.mem_singleton.1 member
        change Pattern.compile pattern.source true = .ok pattern
        rwa [named]
      have opens : Opens before true session begun := .existing begins
      exact ⟨session, begun, begins, (commit_concludes opens compiled ["c", "("]).2⟩

end EditSession

end LogLens
